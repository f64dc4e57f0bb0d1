import ChatBackend.Chat.Requests
import ChatBackend.Effects.Conduct

/-!
# One direct room for two users

`CreateDirectRoom` looks a room up, and stores one, under a key made of its two
ids as they are spelled.  The key does not depend on their order, and it is
unique, so that calls with one key get one room whatever the order of their
statements.  The database compares users by what their ids read as, though, and
calls for the same two users have different keys when they spell an id
differently.  Two users have at most one direct room, in every interleaving,
exactly when all calls for them make the same key.
-/

namespace ChatBackend.Chat.DirectRoomPairs

open Effects
open Relational
open Effects.Program
open Transition
open ChatBackend.Chat.Store
open ChatBackend.Chat.Schema
open ChatBackend.Chat.RoomUseCases
open ChatBackend.Chat.Requests

/-! ## Calls -/

/-- A call of `CreateDirectRoom.execute` and what it draws. -/
structure DirectRoomCall where
  draws : RoomDraws
  requesterId : String
  targetUserId : String

namespace DirectRoomCall

variable (uuid : PgUuid) (users : List User) (call other : DirectRoomCall)

def program : ChatProgram RoomDto :=
  CreateDirectRoom.execute call.draws call.requesterId call.targetUserId

/-- The key under which the call looks a room up and stores one. -/
def dmKey : String :=
  roomRepo.dmKey call.requesterId call.targetUserId

/-- The calls are for the same two existing users, in either order. -/
def SameUsers : Prop :=
  ∃ userA ∈ users, ∃ userB ∈ users,
    uuid.read call.requesterId = some userA.id ∧
      uuid.read call.targetUserId = some userB.id ∧
        ((uuid.read other.requesterId = some userA.id ∧
            uuid.read other.targetUserId = some userB.id) ∨
          (uuid.read other.requesterId = some userB.id ∧
            uuid.read other.targetUserId = some userA.id))

/-- The room has the id that the call has drawn. -/
def Made (room : Room) : Prop :=
  uuid.read call.draws.id = some room.id

end DirectRoomCall

abbrev DirectRoomConfig (Name : Type*) :=
  Config Name ChatPort ChatState Failure RoomDto

/-- Tables without rooms, and every call before its first statement. -/
def begin {Name : Type*} (users : List User) (calls : Name → DirectRoomCall) :
    DirectRoomConfig Name where
  shared :=
    { users, rooms := [], roomMembers := [], messages := [], objects := [],
      published := [] }
  threads name := (calls name).program

/-- One turn of an interleaving: the named call issues its next statement. -/
abbrev turn {Name : Type*} [DecidableEq Name] (uuid : PgUuid) :
    DirectRoomConfig Name → Name × Time → DirectRoomConfig Name :=
  Config.advance (chatAdapter uuid)

/-- The generator has drawn a different id for every call. -/
structure FreshDraws {Name : Type*} (uuid : PgUuid)
    (calls : Name → DirectRoomCall) : Prop where
  read : ∀ name, ∃ id, uuid.read (calls name).draws.id = some id
  distinct : ∀ name other,
    uuid.read (calls name).draws.id = uuid.read (calls other).draws.id →
      name = other

/-! ## Specification -/

section Specification

variable {Name : Type*} (uuid : PgUuid) (users : List User)
  (calls : Name → DirectRoomCall)

/-- Calls for the same two users store one room and return one room. -/
structure OnePerPair (config : DirectRoomConfig Name) : Prop where
  rooms : ∀ name other, (calls name).SameUsers uuid users (calls other) →
    ∀ room ∈ config.shared.rooms, (calls name).Made uuid room →
      ∀ another ∈ config.shared.rooms, (calls other).Made uuid another →
        room = another
  returns : ∀ name other, (calls name).SameUsers uuid users (calls other) →
    ∀ dto ∈ (config.threads name).result?,
      ∀ another ∈ (config.threads other).result?, dto = another

/-- The calls for the same two users all make the same key. -/
def SpelledAlike : Prop :=
  ∀ name other, (calls name).SameUsers uuid users (calls other) →
    (calls name).dmKey = (calls other).dmKey

end Specification

/-! ## What the calls agree on -/

section Calls

variable {Name : Type*} {uuid : PgUuid} {users : List User}
  {calls : Name → DirectRoomCall} {state : ChatState}

/-- Every room is stored under the key of the call that has drawn its id. -/
structure Stored (uuid : PgUuid) (calls : Name → DirectRoomCall)
    (state : ChatState) : Prop where
  conforms : Conforms uuid state
  makers : ∀ room ∈ state.rooms, ∃ name, (calls name).Made uuid room ∧
    room.dmKey = some (calls name).dmKey

/-- Rooms are added and stay as they are. -/
def conduct (uuid : PgUuid) (calls : Name → DirectRoomCall) :
    Conduct ChatState where
  invariant := Stored uuid calls
  allows before after := ∀ room ∈ before.rooms, room ∈ after.rooms
  refl _ _ stored := stored
  trans _ _ _ first second room stored := second room (first room stored)

/-- The call has returned a room that is stored under its key. -/
def Returned (call : DirectRoomCall) (dto : RoomDto) (state : ChatState) :
    Prop :=
  ∃ room ∈ state.rooms, room.toRoomDto = dto ∧ room.dmKey = some call.dmKey

theorem returned_stable (call : DirectRoomCall) :
    (conduct uuid calls).Stable (Returned call) := by
  rintro dto before after grows ⟨room, stored, same, keyed⟩
  exact ⟨room, grows room stored, same, keyed⟩

theorem assured_findByDmKey {call : DirectRoomCall}
    {next : Option Room → ChatProgram RoomDto}
    (found : ∀ later, ∀ room ∈ later.rooms, room.dmKey = some call.dmKey →
      (conduct uuid calls).Assured (chatAdapter uuid) (Returned call)
        (next (some room)) later)
    (missing : ∀ later,
      (conduct uuid calls).Assured (chatAdapter uuid) (Returned call)
        (next none) later) :
    (conduct uuid calls).Assured (chatAdapter uuid) (Returned call)
      (roomRepo.findByDmKey (some call.dmKey) >>= next) state := by
  apply Conduct.Assured.look
  · intro input later answer after answered
    exact (findByDmKey_eq_ok_iff.mp answered).2.symm
  intro later _ _ input answer answered
  rcases findByDmKey_eq_ok_iff.mp answered with ⟨looked, -⟩
  cases answer with
  | none => exact missing later
  | some room =>
      exact found later room (mem_of_first looked) (condition_of_first looked).2

/-- The insertion of a call observes the conduct. -/
theorem create_assured (name : Name) :
    (conduct uuid calls).Assured (chatAdapter uuid) (Returned (calls name))
      (CreateDirectRoom.create (calls name).draws (calls name).requesterId
        (calls name).targetUserId) state := by
  apply Conduct.Assured.call
  intro later _ holds input answer after answered
  have conformsAfter : Conforms uuid after := holds.conforms.statement answered
  rcases insertDm_eq_ok_iff.mp answered with ⟨row, reads, ends⟩
  have keyed : row.dmKey = some (calls name).dmKey := readDirectRoom_dmKey reads
  split_ifs at ends with taken
  · -- another call has taken the key
    rcases ends with ⟨rfl, rfl⟩
    refine ⟨holds, fun _ stored => stored, ?_⟩
    refine assured_findByDmKey ?_ ?_
    · intro last room stored sameKey
      exact ⟨room, stored, rfl, sameKey⟩
    · exact fun _ => trivial
  · rcases ends with ⟨fits, rfl, rfl⟩
    rcases readRoom_eq_ok_iff.mp reads with ⟨id, idRead, -, createdBy, -, rfl⟩
    refine ⟨⟨conformsAfter, ?_⟩, fun _ stored => List.mem_append_left _ stored,
      ?_⟩
    · intro room stored
      rcases List.mem_append.mp stored with old | new
      · exact holds.makers room old
      · cases List.mem_singleton.mp new
        exact ⟨name, idRead, keyed⟩
    -- the members come with a statement of their own
    apply Conduct.Assured.call
    intro last grown holdsLast input answer after inserted
    have conformsLast : Conforms uuid after :=
      holdsLast.conforms.statement inserted
    obtain ⟨_, -, _, -, -, -, rfl⟩ := insertDmMembers_eq_ok_iff.mp inserted
    refine ⟨⟨conformsLast, holdsLast.makers⟩, fun _ stored => stored, ?_⟩
    exact ⟨_, grown _ (List.mem_append_right _ (.head _)), rfl, keyed⟩

theorem program_assured (name : Name) :
    (conduct uuid calls).Assured (chatAdapter uuid) (Returned (calls name))
      (calls name).program state := by
  apply Conduct.Assured.look
  · intro input later answer after answered
    rcases findUser_eq_ok_iff.mp answered with ⟨-, -, -, same⟩
    exact same.symm
  intro later _ _ input answer answered
  cases answer with
  | none => trivial
  | some user =>
      refine assured_findByDmKey ?_ ?_
      · intro last room stored sameKey
        exact ⟨room, stored, rfl, sameKey⟩
      · exact fun last => create_assured name

/-- What the calls have stored and returned, in a state that they reach. -/
abbrev Reached (uuid : PgUuid) (calls : Name → DirectRoomCall)
    (config : DirectRoomConfig Name) : Prop :=
  Conduct.Orderly (conduct uuid calls) (chatAdapter uuid)
    (fun name => Returned (calls name)) config

theorem reached_begin (uuid : PgUuid) (users : List User)
    (calls : Name → DirectRoomCall) :
    Reached uuid calls (begin users calls) where
  holds := ⟨conforms_empty uuid users [], by simp [begin]⟩
  assured := program_assured

/-- Two rooms with one key are one room. -/
theorem Stored.eq_of_dmKey (stored : Stored uuid calls state)
    {room another : Room} {key : String} (member : room ∈ state.rooms)
    (other : another ∈ state.rooms) (keyed : room.dmKey = some key)
    (same : another.dmKey = some key) : room = another := by
  apply Unclashing.eq_of_clash stored.conforms.dmKeys _ member other
  · exact ⟨by simp [keyed], keyed.trans same.symm⟩
  · rintro left right ⟨given, clash⟩
    exact ⟨clash ▸ given, clash.symm⟩

/-- The id of a room tells under which key it is stored. -/
theorem Stored.dmKey_of_made (stored : Stored uuid calls state)
    (fresh : FreshDraws uuid calls) {name : Name} {room : Room}
    (member : room ∈ state.rooms) (drawn : (calls name).Made uuid room) :
    room.dmKey = some (calls name).dmKey := by
  rcases stored.makers room member with ⟨maker, drew, keyed⟩
  cases fresh.distinct name maker (drawn.trans drew.symm)
  exact keyed

/-- Calls that spell alike get one room for two users. -/
theorem onePerPair_of_spelledAlike {config : DirectRoomConfig Name}
    (fresh : FreshDraws uuid calls) (alike : SpelledAlike uuid users calls)
    (reached : Reached uuid calls config) :
    OnePerPair uuid users calls config := by
  have stored : Stored uuid calls config.shared := reached.holds
  constructor
  · intro name other same room member drawn another otherMember drew
    apply stored.eq_of_dmKey member otherMember
      (stored.dmKey_of_made fresh member drawn)
    rw [stored.dmKey_of_made fresh otherMember drew, alike name other same]
  · intro name other same dto returned another otherReturned
    rcases (reached.assured name).result returned with
      ⟨room, member, rfl, keyed⟩
    rcases (reached.assured other).result otherReturned with
      ⟨otherRoom, otherMember, rfl, otherKeyed⟩
    rw [← alike name other same] at otherKeyed
    rw [stored.eq_of_dmKey member otherMember keyed otherKeyed]

/-! ## Two calls one after the other -/

/-- A call for existing users stores a room if its key and its id are free. -/
theorem execute_creates {call : DirectRoomCall} {id : String} {now : Time}
    {userA userB : User} (knownA : userA ∈ state.users)
    (knownB : userB ∈ state.users)
    (readA : uuid.read call.requesterId = some userA.id)
    (readB : uuid.read call.targetUserId = some userB.id)
    (drawn : uuid.read call.draws.id = some id)
    (freeId : ∀ room ∈ state.rooms, room.id ≠ id)
    (freeKey : ∀ room ∈ state.rooms, room.dmKey ≠ some call.dmKey) :
    Ensures (chatAdapter uuid) now call.program state fun _ after =>
      after.users = state.users ∧ ∃ room, room.id = id ∧
        room.dmKey = some call.dmKey ∧ after.rooms = state.rooms ++ [room] := by
  obtain ⟨found, looked⟩ : ∃ found,
      first (fun row => row.id = userB.id) state.users = some found :=
    exists_first knownB rfl
  refine Ensures.call_ok
    (findUser_eq_ok_iff.mpr ⟨userB.id, readB, looked, rfl⟩) ?_
  refine ensures_findByDmKey ?_
  have missing : first (fun row : Room => row.dmKey ≠ none ∧
      row.dmKey = some (roomRepo.dmKey call.requesterId call.targetUserId))
      state.rooms = none :=
    first_eq_none_iff.mpr fun room stored same => freeKey room stored same.2
  rw [missing]
  obtain ⟨row, reads, rowId, rowKey, rowCreator⟩ : ∃ row,
      PgRoomRepository.readRoom uuid
          (CreateDirectRoom.newRoom call.draws call.requesterId
            call.targetUserId) = .ok row ∧
        row.id = id ∧ row.dmKey = some call.dmKey ∧
          row.createdBy = some userA.id :=
    ⟨_, readRoom_eq_ok_iff.mpr
      ⟨id, drawn, rfl, some userA.id,
        nullable_some_eq_ok_iff.mpr ⟨userA.id, readA, rfl⟩, rfl⟩,
      rfl, rfl, rfl⟩
  have fits : PgRoomRepository.roomViolation state row = none := by
    rw [roomViolation_eq_none_iff, rowId, rowKey, rowCreator]
    exact ⟨freeId, fun _ => freeKey,
      fun creator same => ⟨userA, knownA, Option.some.inj same⟩⟩
  have inserted : chatAdapter uuid
      (.roomRepo (.insertDm (CreateDirectRoom.newRoom call.draws
        call.requesterId call.targetUserId))) now state =
        .ok (some row, { state with rooms := state.rooms ++ [row] }) := by
    refine insertDm_eq_ok_iff.mpr ⟨row, reads, ?_⟩
    rw [if_neg]
    · exact ⟨fits, rfl, rfl⟩
    · rintro ⟨-, room, stored, same⟩
      exact freeKey room stored (same.trans rowKey)
  obtain ⟨memberA, memberB, -, -, joined⟩ :=
    insertDmMembers_ok readB ⟨userB, knownB, rfl⟩ reads fits
  refine Ensures.call_ok inserted (Ensures.call_ok joined (Ensures.done ?_))
  exact ⟨rfl, row, rowId, rowKey, rfl⟩

variable [DecidableEq Name] {config : DirectRoomConfig Name}

/-- A call that runs alone stores its room and leaves the other calls. -/
theorem exists_creates {name : Name} {id : String} {userA userB : User}
    (waits : config.threads name = (calls name).program)
    (knownA : userA ∈ config.shared.users)
    (knownB : userB ∈ config.shared.users)
    (readA : uuid.read (calls name).requesterId = some userA.id)
    (readB : uuid.read (calls name).targetUserId = some userB.id)
    (drawn : uuid.read (calls name).draws.id = some id)
    (freeId : ∀ room ∈ config.shared.rooms, room.id ≠ id)
    (freeKey : ∀ room ∈ config.shared.rooms,
      room.dmKey ≠ some (calls name).dmKey) :
    ∃ schedule, ∃ room,
      let after := run (turn uuid) config schedule
      (∀ other, other ≠ name → after.threads other = config.threads other) ∧
        after.shared.users = config.shared.users ∧ room.id = id ∧
          room.dmKey = some (calls name).dmKey ∧
            after.shared.rooms = config.shared.rooms ++ [room] := by
  have creates := @execute_creates uuid config.shared (calls name) id 0 userA
    userB knownA knownB readA readB drawn freeId freeKey
  rw [← waits] at creates
  obtain ⟨schedule, outcome, after, played, sameUsers, room, roomId, roomKey,
    rooms⟩ := Config.exists_alone_ensures creates
  have reached : run (turn uuid) config schedule = _ := played
  refine ⟨schedule, room, ?_⟩
  rw [reached]
  refine ⟨?_, sameUsers, roomId, roomKey, rooms⟩
  exact fun other different => Function.update_of_ne different _ _

/-- Two calls for the same users that do not spell alike store two rooms. -/
theorem spelledAlike_of_onePerPair (fresh : FreshDraws uuid calls)
    (one : ∀ schedule, OnePerPair uuid users calls
      (run (turn uuid) (begin users calls) schedule)) :
    SpelledAlike uuid users calls := by
  intro name other same
  by_contra differ
  have distinct : other ≠ name := by
    rintro rfl
    exact differ rfl
  rcases fresh.read name with ⟨id, drawn⟩
  rcases fresh.read other with ⟨otherId, otherDrawn⟩
  have known := same
  obtain ⟨userA, knownA, userB, knownB, readA, readB, otherReads⟩ := known
  obtain ⟨userC, knownC, userD, knownD, readC, readD⟩ : ∃ userC ∈ users,
      ∃ userD ∈ users, uuid.read (calls other).requesterId = some userC.id ∧
        uuid.read (calls other).targetUserId = some userD.id := by
    rcases otherReads with ⟨readC, readD⟩ | ⟨readC, readD⟩
    · exact ⟨userA, knownA, userB, knownB, readC, readD⟩
    · exact ⟨userB, knownB, userA, knownA, readC, readD⟩
  have waits : (begin users calls).threads name = (calls name).program := rfl
  obtain ⟨firstTurns, room, others, sameUsers, roomId, roomKey, rooms⟩ :=
    exists_creates waits knownA knownB readA readB drawn (by simp [begin])
      (by simp [begin])
  have otherWaits := others other distinct
  obtain ⟨secondTurns, another, -, -, anotherId, -, bothRooms⟩ :=
    exists_creates otherWaits (sameUsers ▸ knownC) (sameUsers ▸ knownD) readC
      readD otherDrawn
      (by
        rw [rooms]
        rintro stored (_ | ⟨_, ⟨⟩⟩) equal
        apply distinct
        apply fresh.distinct
        rw [drawn, otherDrawn, ← equal, roomId])
      (by
        rw [rooms]
        rintro stored (_ | ⟨_, ⟨⟩⟩) equal
        exact differ (Option.some.inj (roomKey.symm.trans equal)))
  have together := one (firstTurns ++ secondTurns)
  rw [run_append] at together
  have equal : room = another := by
    apply together.rooms name other same
    · rw [bothRooms, rooms]
      simp
    · exact drawn.trans (congrArg some roomId.symm)
    · rw [bothRooms]
      simp
    · exact otherDrawn.trans (congrArg some anotherId.symm)
  apply distinct
  apply fresh.distinct
  rw [drawn, otherDrawn, ← anotherId, ← equal, roomId]

/--
Two users have at most one direct room, and their calls return the same room,
in every interleaving of any calls, exactly when the calls for the same two
users all make the same key.
-/
theorem one_dm_per_pair_iff (uuid : PgUuid) (users : List User)
    (calls : Name → DirectRoomCall) (fresh : FreshDraws uuid calls) :
    (∀ schedule, OnePerPair uuid users calls
        (run (turn uuid) (begin users calls) schedule)) ↔
      SpelledAlike uuid users calls := by
  constructor
  · exact spelledAlike_of_onePerPair fresh
  · intro alike schedule
    apply onePerPair_of_spelledAlike fresh alike
    exact Conduct.Orderly.play (fun name => returned_stable (calls name))
      (reached_begin uuid users calls) schedule

end Calls

/-! ## Spellings -/

/-- The key does not depend on the order of the two ids. -/
theorem dmKey_comm (userA userB : String) :
    roomRepo.dmKey userA userB = roomRepo.dmKey userB userA := by
  unfold roomRepo.dmKey
  by_cases before : userA < userB
  · rw [if_neg (String.lt_asymm before), if_pos before]
  · rw [if_neg before]
    split_ifs with after
    · rfl
    · rw [String.le_antisymm after before]

/-- Calls that write the ids as the database does spell alike. -/
theorem spelledAlike_of_canonical {Name : Type*} {uuid : PgUuid}
    {users : List User} {calls : Name → DirectRoomCall}
    (requesters : ∀ name, ∀ id ∈ uuid.read (calls name).requesterId,
      (calls name).requesterId = id)
    (targets : ∀ name, ∀ id ∈ uuid.read (calls name).targetUserId,
      (calls name).targetUserId = id) :
    SpelledAlike uuid users calls := by
  rintro name other ⟨userA, -, userB, -, readA, readB, readings⟩
  unfold DirectRoomCall.dmKey
  rw [requesters name _ readA, targets name _ readB]
  rcases readings with ⟨readC, readD⟩ | ⟨readC, readD⟩
  · rw [requesters other _ readC, targets other _ readD]
  · rw [requesters other _ readC, targets other _ readD, dmKey_comm]

/-- The digits of an id, in either case. -/
def hexDigits : List Char := "0123456789abcdefABCDEF".toList

/-- What may stand at a place of an id. -/
def UuidChar (place : Nat) (c : Char) : Prop :=
  if place = 8 ∨ place = 13 ∨ place = 18 ∨ place = 23 then c = '-'
  else c ∈ hexDigits

instance (place : Nat) (c : Char) : Decidable (UuidChar place c) :=
  inferInstanceAs (Decidable (ite _ _ _))

/-- What `z.string().uuid()` accepts, and returns unchanged. -/
def UuidText (text : List Char) : Prop :=
  text.length = 36 ∧ ∀ entry ∈ text.zipIdx, UuidChar entry.2 entry.1

instance (text : List Char) : Decidable (UuidText text) :=
  inferInstanceAs (Decidable (_ ∧ _))

theorem uuidChar_toLower {place : Nat} {c : Char} (valid : UuidChar place c) :
    UuidChar place c.toLower ∧ c.toLower.toLower = c.toLower := by
  unfold UuidChar at *
  split_ifs at * with dash
  · subst valid
    decide
  · have digits : (hexDigits.all fun c => decide
        (c.toLower ∈ hexDigits ∧ c.toLower.toLower = c.toLower)) = true := by
      decide
    exact of_decide_eq_true (List.all_eq_true.mp digits c valid)

theorem uuidText_toLower {text : List Char} (valid : UuidText text) :
    UuidText (text.map Char.toLower) ∧
      (text.map Char.toLower).map Char.toLower = text.map Char.toLower := by
  rcases valid with ⟨size, chars⟩
  refine ⟨⟨by simp [size], ?_⟩, ?_⟩
  · rw [List.zipIdx_map]
    intro entry member
    rcases List.mem_map.mp member with ⟨old, stored, rfl⟩
    exact (uuidChar_toLower (chars old stored)).1
  · rw [List.map_map]
    apply List.map_congr_left
    intro c member
    rcases List.mem_iff_getElem.mp member with ⟨place, bound, rfl⟩
    have valid : UuidChar place text[place] := by
      apply chars (text[place], place)
      exact List.mk_mem_zipIdx_iff_getElem?.mpr (List.getElem?_eq_getElem bound)
    exact (uuidChar_toLower valid).2

/-- The database reads the hexadecimal form and writes it in lower case. -/
def hexUuid : PgUuid where
  read spelled :=
    if UuidText spelled.toList then
      some (String.ofList (spelled.toList.map Char.toLower))
    else none
  canonical := by
    intro spelled id reading
    split_ifs at reading with valid
    cases reading
    rcases uuidText_toLower valid with ⟨validLower, idle⟩
    rw [String.toList_ofList, if_pos validLower, idle]

theorem read_sampleRoomId :
    hexUuid.read sampleRoomId = some sampleRoomId := by
  decide +kernel

theorem read_sampleOtherRoomId :
    hexUuid.read sampleOtherRoomId = some sampleOtherRoomId := by
  decide +kernel

/-- A user opens a direct room twice, and `targetUserId` is spelled anew. -/
def openTwice (targetUserId : String) : Bool → DirectRoomCall
  | true =>
      { draws := { id := sampleRoomId, now := 1 }, requesterId := sampleOwner,
        targetUserId := sampleMember }
  | false =>
      { draws := { id := sampleOtherRoomId, now := 2 },
        requesterId := sampleOwner, targetUserId }

theorem freshDraws_openTwice (targetUserId : String) :
    FreshDraws hexUuid (openTwice targetUserId) := by
  have differ : hexUuid.read sampleRoomId ≠
      hexUuid.read sampleOtherRoomId := by
    rw [read_sampleRoomId, read_sampleOtherRoomId]
    decide +kernel
  constructor
  · rintro (_ | _)
    · exact ⟨sampleOtherRoomId, read_sampleOtherRoomId⟩
    · exact ⟨sampleRoomId, read_sampleRoomId⟩
  · rintro (_ | _) (_ | _) same
    · rfl
    · exact absurd same.symm differ
    · exact absurd same differ
    · rfl

/-- Both calls have looked for a room before one of them stores it. -/
def overlapping : List (Bool × Time) :=
  [true, false, true, false, true, false, true, false, true].map (·, 3)

/-- The two users. -/
def bothUsers : List User :=
  [sampleOwner, sampleMember].map sampleUser

theorem one_dm_per_pair_iff_overlapping :
    OnePerPair hexUuid bothUsers (openTwice sampleMember)
      (run (turn hexUuid) (begin bothUsers (openTwice sampleMember))
        overlapping) := by
  refine (one_dm_per_pair_iff hexUuid _ _ (freshDraws_openTwice _)).mpr ?_ _
  apply spelledAlike_of_canonical
  · decide +kernel
  · decide +kernel

/-- The id of the same user, in upper case. -/
def sampleMemberUpper : String :=
  sampleMember.map Char.toUpper

theorem one_dm_per_pair_fails :
    ¬ ∀ (uuid : PgUuid) (users : List User) (calls : Bool → DirectRoomCall)
        (schedule : List (Bool × Time)), FreshDraws uuid calls →
      (∀ name, UuidText (calls name).targetUserId.toList) →
        OnePerPair uuid users calls
          (run (turn uuid) (begin users calls) schedule) := by
  intro claim
  have one := claim hexUuid bothUsers (openTwice sampleMemberUpper) overlapping
    (freshDraws_openTwice _) (by decide +kernel)
  have readOwner : hexUuid.read sampleOwner = some sampleOwner := by
    decide +kernel
  have readMember : hexUuid.read sampleMember = some sampleMember := by
    decide +kernel
  have readUpper : hexUuid.read sampleMemberUpper = some sampleMember := by
    decide +kernel
  have same : (openTwice sampleMemberUpper true).SameUsers hexUuid bothUsers
      (openTwice sampleMemberUpper false) :=
    ⟨sampleUser sampleOwner, by simp [bothUsers], sampleUser sampleMember,
      by simp [bothUsers], readOwner, readMember, .inl ⟨readOwner, readUpper⟩⟩
  have rooms : (run (turn hexUuid)
      (begin bothUsers (openTwice sampleMemberUpper))
        overlapping).shared.rooms =
      [{ id := sampleRoomId, kind := .dm, name := none,
         createdBy := some sampleOwner,
         dmKey := some (roomRepo.dmKey sampleOwner sampleMember),
         lastMessageAt := none, createdAt := 1 },
       { id := sampleOtherRoomId, kind := .dm, name := none,
         createdBy := some sampleOwner,
         dmKey := some (roomRepo.dmKey sampleOwner sampleMemberUpper),
         lastMessageAt := none, createdAt := 2 }] := by
    decide +kernel
  have equal := one.rooms true false same
  rw [rooms] at equal
  have merged := equal _ (.head _) read_sampleRoomId _ (.tail _ (.head _))
    read_sampleOtherRoomId
  exact absurd merged (by decide +kernel)

end ChatBackend.Chat.DirectRoomPairs
