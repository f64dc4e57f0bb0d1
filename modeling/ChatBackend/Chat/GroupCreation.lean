import ChatBackend.Chat.DirectRoomPairs
import Mathlib.Data.List.Nodup
import Mathlib.Data.List.Forall2
import Mathlib.Data.Option.Basic

/-!
# Group creation

`CreateGroupRoom` compares the listed ids, and the requester's, as they are
spelled, and looks every user up before it writes.  The database compares the
members by what their ids read as.  A group is created as a whole, or nothing
is, unless two of the ids denote one user in different spellings: then a
duplicate member is rejected after the room and its owner are stored.  Nor is a
group created whose name the database cannot store.
-/

namespace ChatBackend.Chat.GroupCreation

open Effects
open Relational
open Effects.Program
open ChatBackend.Chat.Store
open ChatBackend.Chat.Schema
open ChatBackend.Chat.RoomUseCases
open ChatBackend.Chat.Requests
open ChatBackend.Chat.DirectRoomPairs

/-! ## The schema -/

/-- What the validation library makes of strings. -/
structure Zod where
  uuid : String → Bool
  trim : String → String

/-- The length of a string of the runtime, in units of 16 bits. -/
def jsLength (text : String) : Nat :=
  text.toList.foldl
    (fun length c => length + if c.val ≤ 0xFFFF then 1 else 2) 0

/-- The name and the ids that the schema makes of a body it accepts. -/
def CreateGroupRoomSchema (zod : Zod) (name : String)
    (memberIds : Option (List String)) : Option (String × List String) :=
  let memberIds := memberIds.getD []
  if 1 ≤ jsLength name ∧ jsLength name ≤ 128 ∧ memberIds.length ≤ 99 ∧
      ∀ id ∈ memberIds, zod.uuid id = true then
    some (zod.trim name, memberIds)
  else none

theorem uuid_of_accepted {zod : Zod} {name parsed : String}
    {memberIds : Option (List String)} {ids : List String}
    (accepted : CreateGroupRoomSchema zod name memberIds = some (parsed, ids)) :
    ∀ id ∈ ids, zod.uuid id = true := by
  unfold CreateGroupRoomSchema at accepted
  dsimp only at accepted
  split_ifs at accepted with valid
  cases accepted
  exact valid.2.2.2

/-! ## What a call should do -/

/-- The id denotes no user. -/
def Unknown (uuid : PgUuid) (users : List User) (id : String) : Prop :=
  ∀ user ∈ users, uuid.read id ≠ some user.id

instance (uuid : PgUuid) (users : List User) :
    DecidablePred (Unknown uuid users) :=
  fun id => inferInstanceAs
    (Decidable (∀ user ∈ users, uuid.read id ≠ some user.id))

section Specification

variable (uuid : PgUuid) (draws : RoomDraws) (requester : User)
  (name : String) (memberIds : List String) (state : ChatState)

/--
The room is new, and its members are the requester, who owns it, and the other
users whose ids are listed.
-/
structure NewGroup (room : Room) (after : ChatState) : Prop where
  kind : room.kind = .group
  named : room.name = some name
  createdBy : room.createdBy = some requester.id
  fresh : ∀ other ∈ state.rooms, other.id ≠ room.id
  rooms : after.rooms = state.rooms ++ [room]
  members : ∀ row, row ∈ after.roomMembers ∧ row.roomId = room.id ↔
    row = newMember room.id requester.id .owner draws.now ∨
      ∃ user ∈ state.users, (∃ id ∈ memberIds, uuid.read id = some user.id) ∧
        user.id ≠ requester.id ∧
          row = newMember room.id user.id .member draws.now
  once : UniqueKey (fun row : RoomMember => row.userId)
    (after.roomMembers.filter fun row => row.roomId = room.id)
  others : (after.roomMembers.filter fun row => row.roomId ≠ room.id) =
    state.roomMembers

/-- A call creates the group as a whole, or it throws and creates nothing. -/
structure Exact (outcome : Except Failure RoomDto × ChatState) : Prop where
  notFound : (∃ message, outcome.1 = .error (.notFoundError message)) ↔
    ∃ id ∈ memberIds, Unknown uuid state.users id
  nothing : (∃ id ∈ memberIds, Unknown uuid state.users id) →
    outcome.2 = state
  creates : (∀ id ∈ memberIds, ¬ Unknown uuid state.users id) →
    ∃ room, outcome.1 = .ok room.toRoomDto ∧
      NewGroup uuid draws requester name memberIds state room outcome.2

/-- No two of the ids denote one user in different spellings. -/
def SpelledAlike (requesterId : String) : Prop :=
  ∀ id ∈ requesterId :: memberIds, ∀ other ∈ requesterId :: memberIds,
    uuid.read id = uuid.read other → id = other

instance (requesterId : String) :
    Decidable (SpelledAlike uuid memberIds requesterId) :=
  inferInstanceAs (Decidable (∀ id ∈ requesterId :: memberIds,
    ∀ other ∈ requesterId :: memberIds,
      uuid.read id = uuid.read other → id = other))

end Specification

/-! ## The ids that are looked up -/

/-- The ids that the use case looks up and adds. -/
def allMemberIds (requesterId : String) (memberIds : List String) :
    List String :=
  (CreateGroupRoom.distinct memberIds).filter fun id => id ≠ requesterId

theorem mem_distinct {id : String} {ids : List String} :
    id ∈ CreateGroupRoom.distinct ids ↔ id ∈ ids := by
  induction ids with
  | nil => exact Iff.rfl
  | cons head tail induction =>
      rw [CreateGroupRoom.distinct, List.mem_cons, List.mem_cons,
        List.mem_filter, induction, decide_eq_true_iff]
      by_cases same : id = head
      · simp [same]
      · simp [same]

theorem nodup_distinct (ids : List String) :
    (CreateGroupRoom.distinct ids).Nodup := by
  induction ids with
  | nil => exact List.nodup_nil
  | cons head tail induction =>
      rw [CreateGroupRoom.distinct, List.nodup_cons]
      refine ⟨?_, induction.filter _⟩
      intro member
      exact of_decide_eq_true (List.mem_filter.mp member).2 rfl

theorem mem_allMemberIds {requesterId id : String} {memberIds : List String} :
    id ∈ allMemberIds requesterId memberIds ↔
      id ∈ memberIds ∧ id ≠ requesterId := by
  rw [allMemberIds, List.mem_filter, mem_distinct, decide_eq_true_iff]

/-- What is read from them is distinct when they are spelled alike. -/
theorem spelledAlike_iff {uuid : PgUuid} {requesterId : String}
    {memberIds : List String} :
    SpelledAlike uuid memberIds requesterId ↔
      ((allMemberIds requesterId memberIds).map uuid.read).Nodup ∧
        ∀ id ∈ allMemberIds requesterId memberIds,
          uuid.read id ≠ uuid.read requesterId := by
  have listed {id : String} (member : id ∈ requesterId :: memberIds)
      (differ : id ≠ requesterId) : id ∈ allMemberIds requesterId memberIds :=
    mem_allMemberIds.mpr ⟨(List.mem_cons.mp member).resolve_left differ, differ⟩
  constructor
  · intro alike
    have inside {id : String}
        (member : id ∈ allMemberIds requesterId memberIds) :
        id ∈ requesterId :: memberIds :=
      List.mem_cons_of_mem _ (mem_allMemberIds.mp member).1
    refine ⟨?_, ?_⟩
    · refine List.Nodup.map_on ?_ ((nodup_distinct memberIds).filter _)
      exact fun id member other otherMember same =>
        alike id (inside member) other (inside otherMember) same
    · intro id member same
      exact (mem_allMemberIds.mp member).2
        (alike id (inside member) requesterId List.mem_cons_self same)
  · rintro ⟨distinct, apart⟩ id member other otherMember same
    by_cases itself : id = requesterId
    · by_cases otherItself : other = requesterId
      · rw [itself, otherItself]
      · rw [itself] at same
        exact absurd same.symm (apart other (listed otherMember otherItself))
    · by_cases otherItself : other = requesterId
      · rw [otherItself] at same
        exact absurd same (apart id (listed member itself))
      · exact List.inj_on_of_nodup_map distinct (listed member itself)
          (listed otherMember otherItself) same

/-! ## The loops -/

section Loops

variable {uuid : PgUuid} {draws : RoomDraws} {now : Time} {state : ChatState}
  {ids values : List String} {room : String}

/-- The first loop throws at the first id that denotes no user. -/
theorem run_findUsers
    (readable : ∀ id ∈ ids, ∃ value, uuid.read id = some value) :
    (CreateGroupRoom.findUsers ids).run (chatAdapter uuid) now state =
      (match first (Unknown uuid state.users) ids with
        | none => .ok ()
        | some id => .error (.notFoundError ("User not found: " ++ id)),
        state) := by
  induction ids with
  | nil => rfl
  | cons id rest induction =>
      obtain ⟨value, reading⟩ := readable id List.mem_cons_self
      have looked : chatAdapter uuid (.findUser id) now state =
          .ok (first (fun user => user.id = value) state.users, state) :=
        findUser_eq_ok_iff.mpr ⟨value, reading, rfl, rfl⟩
      rw [CreateGroupRoom.findUsers, userRepo.findById, perform_bind,
        run_call_ok _ looked]
      cases found : first (fun user => user.id = value) state.users with
      | none =>
          have unknown : Unknown uuid state.users id := by
            intro user member same
            rw [reading, Option.some.injEq] at same
            exact first_eq_none_iff.mp found user member same.symm
          rw [first_cons_of unknown]
          rfl
      | some user =>
          have known : ¬ Unknown uuid state.users id := by
            intro unknown
            refine unknown user (mem_of_first found) ?_
            rw [reading, condition_of_first found]
          rw [first_cons_of_not known]
          exact induction fun id member =>
            readable id (List.mem_cons_of_mem _ member)

variable (reads : List.Forall₂ (fun id value => uuid.read id = some value)
    ids values)
  (idRead : uuid.read draws.id = some room)

include reads idRead

/-- The second loop adds every user, if nobody is a member already. -/
theorem run_addMembers
    (stored : ∃ row ∈ state.rooms, row.id = room)
    (known : ∀ value ∈ values, ∃ user ∈ state.users, user.id = value)
    (fresh : ∀ row ∈ state.roomMembers, row.roomId = room →
      row.userId ∉ values)
    (distinct : values.Nodup) :
    (CreateGroupRoom.addMembers draws ids).run (chatAdapter uuid) now state =
      (.ok (), { state with
        roomMembers := state.roomMembers ++
          values.map fun value => newMember room value .member draws.now }) := by
  induction reads generalizing state with
  | nil =>
      rw [List.map_nil, List.append_nil]
      rfl
  | @cons id value ids values reading rest induction =>
      rw [List.nodup_cons] at distinct
      rw [List.forall_mem_cons] at known
      have inserted : chatAdapter uuid (.roomRepo (.insertMember
          (newMember draws.id id .member draws.now))) now state = .ok _ :=
        insertMember_eq_ok_iff.mpr
          ⟨_, readNewMember .member draws.now idRead reading,
            fun row member same =>
              fresh row member same.1 (same.2 ▸ List.mem_cons_self),
            newMember_refers stored known.1, rfl, rfl⟩
      have later : ∀ row ∈ state.roomMembers ++
          [newMember room value .member draws.now], row.roomId = room →
            row.userId ∉ values := by
        intro row member inRoom
        rcases List.mem_append.mp member with old | new
        · exact fun listed =>
            fresh row old inRoom (List.mem_cons_of_mem _ listed)
        · rw [List.mem_singleton.mp new]
          exact distinct.1
      rw [CreateGroupRoom.addMembers, roomRepo.addMember, perform_bind,
        run_call_ok _ inserted]
      refine (@induction { state with
        roomMembers :=
          state.roomMembers ++ [newMember room value .member draws.now] }
        stored known.2 later distinct.2).trans ?_
      rw [List.append_assoc, List.singleton_append, List.map_cons]

/-- The second loop ends only if it has added every user once. -/
theorem of_run_addMembers
    (ended : ((CreateGroupRoom.addMembers draws ids).run (chatAdapter uuid) now
      state).1 = .ok ()) :
    values.Nodup ∧
      ∀ row ∈ state.roomMembers, row.roomId = room → row.userId ∉ values := by
  induction reads generalizing state with
  | nil => exact ⟨List.nodup_nil, fun _ _ _ => List.not_mem_nil⟩
  | @cons id value ids values reading rest induction =>
      rw [CreateGroupRoom.addMembers, roomRepo.addMember, perform_bind]
        at ended
      cases attempt : chatAdapter uuid (.roomRepo (.insertMember
          (newMember draws.id id .member draws.now))) now state with
      | error error =>
          rw [run_call_error _ attempt] at ended
          cases ended
      | ok answered =>
          rw [run_call_ok _ attempt] at ended
          obtain ⟨row, reads, fresh, -, -, after⟩ :=
            insertMember_eq_ok_iff.mp attempt
          rw [readNewMember .member draws.now idRead reading] at reads
          cases reads
          obtain ⟨distinct, apart⟩ := induction ended
          rw [← after] at apart
          refine ⟨List.nodup_cons.mpr ⟨?_, distinct⟩, ?_⟩
          · exact apart _ List.mem_concat_self rfl
          · intro other member inRoom listed
            rcases List.mem_cons.mp listed with same | later
            · exact fresh other member ⟨inRoom, same⟩
            · exact apart other (List.mem_append_left _ member) inRoom later

end Loops

/-! ## What the ids are read as -/

section Values

variable {uuid : PgUuid} {ids values : List String}

theorem exists_values
    (readable : ∀ id ∈ ids, ∃ value, uuid.read id = some value) :
    ∃ values, List.Forall₂ (fun id value => uuid.read id = some value)
      ids values := by
  induction ids with
  | nil => exact ⟨[], .nil⟩
  | cons id rest induction =>
      obtain ⟨⟨value, reading⟩, readable⟩ := List.forall_mem_cons.mp readable
      obtain ⟨values, reads⟩ := induction readable
      exact ⟨value :: values, .cons reading reads⟩

theorem map_read
    (reads : List.Forall₂ (fun id value => uuid.read id = some value)
      ids values) :
    ids.map uuid.read = values.map some := by
  induction reads with
  | nil => rfl
  | cons reading rest induction =>
      rw [List.map_cons, List.map_cons, reading, induction]

theorem mem_values_iff
    (reads : List.Forall₂ (fun id value => uuid.read id = some value)
      ids values) {value : String} :
    value ∈ values ↔ ∃ id ∈ ids, uuid.read id = some value := by
  rw [← List.mem_map, map_read reads]
  exact (List.mem_map_of_injective (Option.some_injective _)).symm

variable {requesterId requester : String} {memberIds : List String}

/-- The ids are spelled alike if each is read once, and none as the requester. -/
theorem spelledAlike_iff_values
    (requesterRead : uuid.read requesterId = some requester)
    (reads : List.Forall₂ (fun id value => uuid.read id = some value)
      (allMemberIds requesterId memberIds) values) :
    SpelledAlike uuid memberIds requesterId ↔
      values.Nodup ∧ requester ∉ values := by
  rw [spelledAlike_iff, map_read reads, requesterRead, mem_values_iff reads,
    List.nodup_map_iff (Option.some_injective _)]
  refine and_congr_right fun _ => ?_
  constructor
  · rintro apart ⟨id, member, same⟩
    exact apart id member same
  · intro apart id member same
    exact apart ⟨id, member, same⟩

end Values

/-! ## A whole call -/

section Calls

/-- The room that a call stores. -/
def groupRoom (draws : RoomDraws) (requester : User) (name id : String) :
    Room :=
  CreateGroupRoom.newRoom { draws with id } requester.id name

/-- The tables when the room has its owner, and nobody else yet. -/
def founded (draws : RoomDraws) (requester : User) (name id : String)
    (state : ChatState) : ChatState :=
  { state with
    rooms := state.rooms ++ [groupRoom draws requester name id]
    roomMembers :=
      state.roomMembers ++ [newMember id requester.id .owner draws.now] }

variable {uuid : PgUuid} {draws : RoomDraws} {now : Time} {state : ChatState}
  {requester : User} {requesterId name id : String}
  {memberIds values : List String}
  (conforms : Conforms uuid state)
  (requesterRead : uuid.read requesterId = some requester.id)
  (requesterKnown : requester ∈ state.users)
  (idRead : uuid.read draws.id = some id)
  (fresh : ∀ other ∈ state.rooms, other.id ≠ id)
  (stores : storable name = true)
  (readable : ∀ listed ∈ memberIds, ∃ value, uuid.read listed = some value)

include requesterRead requesterKnown in
/-- The requester is known, so that an unknown id is looked up. -/
theorem unknown_allMemberIds :
    (∃ listed ∈ memberIds, Unknown uuid state.users listed) ↔
      ∃ listed ∈ allMemberIds requesterId memberIds,
        Unknown uuid state.users listed := by
  constructor
  · rintro ⟨listed, member, unknown⟩
    refine ⟨listed, mem_allMemberIds.mpr ⟨member, ?_⟩, unknown⟩
    rintro rfl
    exact unknown requester requesterKnown requesterRead
  · rintro ⟨listed, member, unknown⟩
    exact ⟨listed, (mem_allMemberIds.mp member).1, unknown⟩

theorem execute_eq :
    CreateGroupRoom.execute draws requesterId name memberIds = (do
      CreateGroupRoom.findUsers (allMemberIds requesterId memberIds)
      let created ← roomRepo.createGroup
        (CreateGroupRoom.newRoom draws requesterId name)
        (newMember draws.id requesterId .owner draws.now)
      CreateGroupRoom.addMembers draws (allMemberIds requesterId memberIds)
      return created.toRoomDto) := rfl

include requesterRead requesterKnown readable in
theorem run_execute_unknown
    (unknown : ∃ listed ∈ memberIds, Unknown uuid state.users listed) :
    ∃ message, (CreateGroupRoom.execute draws requesterId name memberIds).run
        (chatAdapter uuid) now state =
      (.error (.notFoundError message), state) := by
  obtain ⟨listed, member, unknown⟩ :=
    (unknown_allMemberIds requesterRead requesterKnown).mp unknown
  obtain ⟨found, first⟩ := exists_first member unknown
  refine ⟨"User not found: " ++ found, ?_⟩
  rw [execute_eq, run_bind, run_findUsers fun listed member =>
    readable listed (mem_allMemberIds.mp member).1, first]

include conforms requesterRead requesterKnown idRead fresh stores in
/-- The room and its owner can be stored. -/
theorem run_createGroup :
    (roomRepo.createGroup (CreateGroupRoom.newRoom draws requesterId name)
        (newMember draws.id requesterId .owner draws.now)).run
        (chatAdapter uuid) now state =
      (.ok (groupRoom draws requester name id),
        founded draws requester name id state) := by
  have fits : PgRoomRepository.roomViolation state
      (groupRoom draws requester name id) = none := by
    refine roomViolation_eq_none_iff.mpr ⟨fresh, ?_, ?_⟩
    · exact fun keyed => absurd rfl keyed
    · rintro creator ⟨⟩
      exact ⟨requester, requesterKnown, rfl⟩
  have inserted : chatAdapter uuid (.roomRepo (.insertGroup
      (CreateGroupRoom.newRoom draws requesterId name))) now state = .ok _ :=
    insertGroup_eq_ok_iff.mpr
      ⟨groupRoom draws requester name id,
        readRoom_eq_ok_iff.mpr ⟨id, idRead, stores, some requester.id,
          nullable_some_eq_ok_iff.mpr ⟨requester.id, requesterRead, rfl⟩,
          rfl⟩, fits, rfl, rfl⟩
  have joined := @insertOwner_ok uuid now draws state
    (groupRoom draws requester name id) requester.id conforms fits idRead
    requesterId requesterRead ⟨requester, requesterKnown, rfl⟩
  rw [roomRepo.createGroup, roomRepo.insertGroup, perform_bind,
    run_call_ok _ inserted, roomRepo.addMember, perform_bind,
    run_call_ok _ joined]
  rfl

include conforms requesterRead requesterKnown idRead fresh stores readable in
/-- If all ids are known, the outcome is that of the second loop. -/
theorem run_execute_known
    (known : ∀ listed ∈ memberIds, ¬ Unknown uuid state.users listed) :
    (CreateGroupRoom.execute draws requesterId name memberIds).run
        (chatAdapter uuid) now state =
      let added := (CreateGroupRoom.addMembers draws
        (allMemberIds requesterId memberIds)).run (chatAdapter uuid) now
          (founded draws requester name id state)
      (added.1.map fun _ => (groupRoom draws requester name id).toRoomDto,
        added.2) := by
  have nobody : first (Unknown uuid state.users)
      (allMemberIds requesterId memberIds) = none :=
    first_eq_none_iff.mpr fun listed member =>
      known listed (mem_allMemberIds.mp member).1
  rw [execute_eq, run_bind, run_findUsers fun listed member =>
    readable listed (mem_allMemberIds.mp member).1, nobody]
  dsimp only
  rw [run_bind, run_createGroup conforms requesterRead requesterKnown idRead
    fresh stores]
  dsimp only
  rw [run_bind]
  cases (CreateGroupRoom.addMembers draws
    (allMemberIds requesterId memberIds)).run (chatAdapter uuid) now
      (founded draws requester name id state) with
  | mk outcome after => cases outcome <;> rfl

end Calls

/-! ## Exactness -/

section Exactness

variable {uuid : PgUuid} {draws : RoomDraws} {now : Time} {state : ChatState}
  {requester : User} {requesterId name id : String}
  {memberIds values : List String}

/-- The tables when everybody has been added. -/
def filled (draws : RoomDraws) (requester : User) (name id : String)
    (values : List String) (state : ChatState) : ChatState :=
  { founded draws requester name id state with
    roomMembers :=
      (founded draws requester name id state).roomMembers ++
        values.map fun value => newMember id value .member draws.now }

/-- The members of the new room. -/
def joined (draws : RoomDraws) (requester : User) (id : String)
    (values : List String) : List RoomMember :=
  newMember id requester.id .owner draws.now ::
    values.map fun value => newMember id value .member draws.now

theorem roomMembers_filled :
    (filled draws requester name id values state).roomMembers =
      state.roomMembers ++ joined draws requester id values := by
  rw [joined, List.append_cons]
  rfl

theorem roomId_of_mem_joined {row : RoomMember}
    (member : row ∈ joined draws requester id values) : row.roomId = id := by
  rcases List.mem_cons.mp member with rfl | added
  · rfl
  · obtain ⟨value, -, rfl⟩ := List.mem_map.mp added
    rfl

/-- Nobody but those who joined is a member of a new room. -/
theorem filter_filled (old : ∀ row ∈ state.roomMembers, row.roomId ≠ id) :
    let rows := (filled draws requester name id values state).roomMembers
    (rows.filter fun row => row.roomId = id) =
        joined draws requester id values ∧
      (rows.filter fun row => row.roomId ≠ id) = state.roomMembers := by
  intro rows
  have split : rows = state.roomMembers ++ joined draws requester id values :=
    roomMembers_filled
  rw [split, List.filter_append, List.filter_append]
  have none : (state.roomMembers.filter fun row => row.roomId = id) = [] :=
    List.filter_eq_nil_iff.mpr fun row member => by simpa using old row member
  have all : (state.roomMembers.filter fun row => row.roomId ≠ id) =
      state.roomMembers :=
    List.filter_eq_self.mpr fun row member => by simpa using old row member
  have joins : ((joined draws requester id values).filter
      fun row => row.roomId = id) = joined draws requester id values :=
    List.filter_eq_self.mpr fun row member => by
      simpa using roomId_of_mem_joined member
  have leaves : ((joined draws requester id values).filter
      fun row => row.roomId ≠ id) = [] :=
    List.filter_eq_nil_iff.mpr fun row member => by
      simpa using roomId_of_mem_joined member
  rw [none, all, joins, leaves, List.nil_append, List.append_nil]
  exact ⟨rfl, rfl⟩

theorem once_joined (distinct : values.Nodup) (apart : requester.id ∉ values) :
    UniqueKey (fun row : RoomMember => row.userId)
      (joined draws requester id values) := by
  refine List.pairwise_cons.mpr ⟨?_, List.pairwise_map.mpr distinct⟩
  intro row added same
  obtain ⟨value, member, rfl⟩ := List.mem_map.mp added
  have itself : requester.id = value := same
  exact apart (itself ▸ member)

/-- The values that are added are the ids of the other users. -/
theorem mem_values_iff_user
    (requesterRead : uuid.read requesterId = some requester.id)
    (known : ∀ listed ∈ memberIds, ¬ Unknown uuid state.users listed)
    (reads : List.Forall₂ (fun id value => uuid.read id = some value)
      (allMemberIds requesterId memberIds) values)
    (apart : requester.id ∉ values) {value : String} :
    value ∈ values ↔ ∃ user ∈ state.users,
      (∃ listed ∈ memberIds, uuid.read listed = some user.id) ∧
        user.id ≠ requester.id ∧ user.id = value := by
  constructor
  · intro member
    obtain ⟨listed, there, reading⟩ := (mem_values_iff reads).mp member
    have inside := (mem_allMemberIds.mp there).1
    have denotes := known listed inside
    unfold Unknown at denotes
    push Not at denotes
    obtain ⟨user, stored, same⟩ := denotes
    have isValue : user.id = value :=
      Option.some.inj (same.symm.trans reading)
    refine ⟨user, stored, ⟨listed, inside, same⟩, ?_, isValue⟩
    intro itself
    exact apart (itself ▸ isValue ▸ member)
  · rintro ⟨user, stored, ⟨listed, member, reading⟩, other, rfl⟩
    refine (mem_values_iff reads).mpr
      ⟨listed, mem_allMemberIds.mpr ⟨member, ?_⟩, reading⟩
    rintro rfl
    exact other (Option.some.inj (reading.symm.trans requesterRead))

theorem newGroup_filled (conforms : Conforms uuid state)
    (requesterRead : uuid.read requesterId = some requester.id)
    (fresh : ∀ other ∈ state.rooms, other.id ≠ id)
    (known : ∀ listed ∈ memberIds, ¬ Unknown uuid state.users listed)
    (reads : List.Forall₂ (fun id value => uuid.read id = some value)
      (allMemberIds requesterId memberIds) values)
    (distinct : values.Nodup) (apart : requester.id ∉ values) :
    NewGroup uuid draws requester name memberIds state
      (groupRoom draws requester name id)
      (filled draws requester name id values state) := by
  have old : ∀ row ∈ state.roomMembers, row.roomId ≠ id := by
    intro row member same
    obtain ⟨room, stored, sameRoom⟩ := conforms.memberRooms row member
    exact fresh room stored (sameRoom.trans same)
  obtain ⟨inside, outside⟩ := @filter_filled draws state requester name id
    values old
  refine ⟨rfl, rfl, rfl, fresh, rfl, ?_, ?_, outside⟩
  · intro row
    have member : row ∈ (filled draws requester name id values
        state).roomMembers ∧ row.roomId = id ↔
          row ∈ joined draws requester id values := by
      rw [← inside, List.mem_filter, decide_eq_true_iff]
    refine member.trans (List.mem_cons.trans (or_congr_right ?_))
    rw [List.mem_map]
    constructor
    · rintro ⟨value, added, rfl⟩
      obtain ⟨user, stored, listed, other, rfl⟩ :=
        (mem_values_iff_user requesterRead known reads apart).mp added
      exact ⟨user, stored, listed, other, rfl⟩
    · rintro ⟨user, stored, listed, other, rfl⟩
      exact ⟨user.id, (mem_values_iff_user requesterRead known reads apart).mpr
        ⟨user, stored, listed, other, rfl⟩, rfl⟩
  · exact inside ▸ once_joined distinct apart

/-- An unknown id is reported, and nothing is written. -/
theorem exact_of_unknown
    (requesterRead : uuid.read requesterId = some requester.id)
    (requesterKnown : requester ∈ state.users)
    (readable : ∀ listed ∈ memberIds, ∃ value, uuid.read listed = some value)
    (unknown : ∃ listed ∈ memberIds, Unknown uuid state.users listed) :
    Exact uuid draws requester name memberIds state
      ((CreateGroupRoom.execute draws requesterId name memberIds).run
        (chatAdapter uuid) now state) := by
  obtain ⟨message, ran⟩ := @run_execute_unknown uuid draws now state requester
    requesterId name memberIds requesterRead requesterKnown readable unknown
  rw [ran]
  refine ⟨⟨fun _ => unknown, fun _ => ⟨message, rfl⟩⟩, fun _ => rfl, ?_⟩
  intro known
  obtain ⟨listed, member, missing⟩ := unknown
  exact absurd missing (known listed member)

/-- A group that is created has a name that the database stores. -/
theorem storable_of_exact (conforms : Conforms uuid state)
    (known : ∀ listed ∈ memberIds, ¬ Unknown uuid state.users listed)
    (exact_ : Exact uuid draws requester name memberIds state
      ((CreateGroupRoom.execute draws requesterId name memberIds).run
        (chatAdapter uuid) now state)) :
    storable name = true := by
  obtain ⟨room, returns, -⟩ := exact_.creates known
  have ends : Ensures (chatAdapter uuid) now
      (CreateGroupRoom.execute draws requesterId name memberIds) state _ :=
    CreateGroupRoom.execute_ends conforms requesterId name memberIds
  unfold Ensures at ends
  rw [returns] at ends
  generalize ((CreateGroupRoom.execute draws requesterId name memberIds).run
    (chatAdapter uuid) now state).2 = after at ends
  cases ends with
  | creates _ _ owner added reads =>
      obtain ⟨_, -, stores, _, -, -⟩ := readRoom_eq_ok_iff.mp reads
      exact stores

/-- If all ids are known, all that matters is how they are spelled. -/
theorem exact_iff_of_known (conforms : Conforms uuid state)
    (requesterRead : uuid.read requesterId = some requester.id)
    (requesterKnown : requester ∈ state.users)
    (idRead : uuid.read draws.id = some id)
    (fresh : ∀ other ∈ state.rooms, other.id ≠ id)
    (stores : storable name = true)
    (readable : ∀ listed ∈ memberIds, ∃ value, uuid.read listed = some value)
    (known : ∀ listed ∈ memberIds, ¬ Unknown uuid state.users listed) :
    Exact uuid draws requester name memberIds state
        ((CreateGroupRoom.execute draws requesterId name memberIds).run
          (chatAdapter uuid) now state) ↔
      SpelledAlike uuid memberIds requesterId := by
  obtain ⟨values, reads⟩ := exists_values fun listed member =>
    readable listed (mem_allMemberIds.mp member).1
  rw [run_execute_known conforms requesterRead requesterKnown idRead fresh
    stores readable known, spelledAlike_iff_values requesterRead reads]
  have nobody : ¬ ∃ listed ∈ memberIds, Unknown uuid state.users listed := by
    rintro ⟨listed, member, unknown⟩
    exact known listed member unknown
  constructor
  · intro exact_
    obtain ⟨room, returns, -⟩ := exact_.creates known
    have ended : ((CreateGroupRoom.addMembers draws
        (allMemberIds requesterId memberIds)).run (chatAdapter uuid) now
          (founded draws requester name id state)).1 = .ok () := by
      revert returns
      dsimp only
      cases ((CreateGroupRoom.addMembers draws
        (allMemberIds requesterId memberIds)).run (chatAdapter uuid) now
          (founded draws requester name id state)).1 with
      | ok result => exact fun _ => rfl
      | error error => exact nofun
    obtain ⟨distinct, apart⟩ := of_run_addMembers reads idRead ended
    exact ⟨distinct, apart _ List.mem_concat_self rfl⟩
  · rintro ⟨distinct, apart⟩
    have users : ∀ value ∈ values, ∃ user ∈ state.users, user.id = value := by
      intro value member
      obtain ⟨user, stored, -, -, same⟩ :=
        (mem_values_iff_user requesterRead known reads apart).mp member
      exact ⟨user, stored, same⟩
    have vacant : ∀ row ∈ (founded draws requester name id
        state).roomMembers, row.roomId = id → row.userId ∉ values := by
      intro row member inRoom
      rcases List.mem_append.mp member with old | new
      · obtain ⟨room, stored, same⟩ := conforms.memberRooms row old
        exact absurd (same.trans inRoom) (fresh room stored)
      · rw [List.mem_singleton.mp new]
        exact apart
    have ran := @run_addMembers uuid draws now
      (founded draws requester name id state) _ values id reads idRead
      ⟨groupRoom draws requester name id, List.mem_concat_self, rfl⟩ users
      vacant distinct
    dsimp only
    rw [ran]
    refine ⟨⟨?_, fun unknown => absurd unknown nobody⟩,
      fun unknown => absurd unknown nobody, fun _ => ?_⟩
    · rintro ⟨message, throws⟩
      cases throws
    · exact ⟨groupRoom draws requester name id, rfl,
        newGroup_filled conforms requesterRead fresh known reads distinct
          apart⟩

/--
A group is created exactly, or not at all, if some id is unknown, or the name
can be stored and no user is listed in two spellings, and in no other case.
-/
theorem exact_iff (zod : Zod) (uuid : PgUuid)
    (accepts : ∀ text, zod.uuid text = true →
      ∃ value, uuid.read text = some value)
    (state : ChatState) (conforms : Conforms uuid state)
    (requester : User) (requesterKnown : requester ∈ state.users)
    (requesterId : String)
    (requesterRead : uuid.read requesterId = some requester.id)
    (body : String) (listed : Option (List String))
    (name : String) (memberIds : List String)
    (accepted : CreateGroupRoomSchema zod body listed = some (name, memberIds))
    (draws : RoomDraws) (id : String)
    (idRead : uuid.read draws.id = some id)
    (fresh : ∀ other ∈ state.rooms, other.id ≠ id) (now : Time) :
    Exact uuid draws requester name memberIds state
        ((CreateGroupRoom.execute draws requesterId name memberIds).run
          (chatAdapter uuid) now state) ↔
      (∃ listed ∈ memberIds, Unknown uuid state.users listed) ∨
        storable name = true ∧ SpelledAlike uuid memberIds requesterId := by
  have readable : ∀ listed ∈ memberIds, ∃ value,
      uuid.read listed = some value :=
    fun listed member => accepts listed (uuid_of_accepted accepted listed member)
  by_cases unknown : ∃ listed ∈ memberIds, Unknown uuid state.users listed
  · exact ⟨fun _ => .inl unknown, fun _ =>
      exact_of_unknown requesterRead requesterKnown readable unknown⟩
  · have known : ∀ listed ∈ memberIds, ¬ Unknown uuid state.users listed :=
      fun listed member missing => unknown ⟨listed, member, missing⟩
    rw [or_iff_right unknown]
    have spelled (stores : storable name = true) :=
      @exact_iff_of_known uuid draws now state requester requesterId name id
        memberIds conforms requesterRead requesterKnown idRead fresh stores
        readable known
    constructor
    · intro exact_
      have stores := storable_of_exact conforms known exact_
      exact ⟨stores, (spelled stores).mp exact_⟩
    · rintro ⟨stores, alike⟩
      exact (spelled stores).mpr alike

end Exactness

/-! ## A sample call -/

section Sample

/-- The hexadecimal form in either case, and no trimming. -/
def sampleZod : Zod where
  uuid text := decide (UuidText text.toList)
  trim := id

def sampleDraws : RoomDraws where
  id := sampleRoomId
  now := 7

theorem sampleZod_accepts :
    ∀ text, sampleZod.uuid text = true →
      ∃ value, hexUuid.read text = some value := by
  intro text accepted
  exact ⟨_, if_pos (of_decide_eq_true accepted)⟩

/-- The member is listed in lower case and in upper case. -/
theorem two_spellings_half_created :
    let state := sampleTables [sampleOwner, sampleMember]
    let memberIds := [sampleMember, sampleMemberUpper]
    let outcome := (CreateGroupRoom.execute sampleDraws sampleOwner "Team"
      memberIds).run (chatAdapter hexUuid) 7 state
    CreateGroupRoomSchema sampleZod "Team" (some memberIds) =
        some ("Team", memberIds) ∧
      outcome.1 = .error (.databaseError (.uniqueViolation
        "room_members_pkey")) ∧
      outcome.2.rooms.length = 1 ∧ outcome.2.roomMembers.length = 2 ∧
      ¬ Exact hexUuid sampleDraws (sampleUser sampleOwner) "Team" memberIds
        state outcome := by
  have throws : ((CreateGroupRoom.execute sampleDraws sampleOwner "Team"
      [sampleMember, sampleMemberUpper]).run (chatAdapter hexUuid) 7
        (sampleTables [sampleOwner, sampleMember])).1 =
      .error (.databaseError (.uniqueViolation "room_members_pkey")) := by
    decide +kernel
  refine ⟨by decide +kernel, throws, by decide +kernel, by decide +kernel, ?_⟩
  intro exact_
  obtain ⟨room, returns, -⟩ := exact_.creates (by decide +kernel)
  rw [throws] at returns
  cases returns

/-- The member is listed twice, and the requester with it. -/
theorem exact_iff_repeated :
    Exact hexUuid sampleDraws (sampleUser sampleOwner) "Team"
      [sampleMember, sampleOwner, sampleMember]
      (sampleTables [sampleOwner, sampleMember])
      ((CreateGroupRoom.execute sampleDraws sampleOwner "Team"
        [sampleMember, sampleOwner, sampleMember]).run (chatAdapter hexUuid) 7
          (sampleTables [sampleOwner, sampleMember])) :=
  (exact_iff sampleZod hexUuid sampleZod_accepts
    (sampleTables [sampleOwner, sampleMember]) (conforms_empty _ _ _)
    (sampleUser sampleOwner) (by decide) sampleOwner (by decide +kernel)
    "Team" (some [sampleMember, sampleOwner, sampleMember]) "Team"
    [sampleMember, sampleOwner, sampleMember] (by decide +kernel) sampleDraws
    sampleRoomId (by decide +kernel) (by decide) 7).mpr
    (.inr ⟨by decide +kernel, by decide +kernel⟩)

end Sample

end ChatBackend.Chat.GroupCreation
