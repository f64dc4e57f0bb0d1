import ChatBackend.Auth.EmailTokens
import ChatBackend.Conflicts
import Mathlib.Data.Fintype.Defs

/-!
# Registrations of one address

`RegisterUser` looks the address up, hashes the password and then creates the
user.  Registrations of one address race for it: whoever finds it free and
creates the user last is rejected by the unique column, and not by the check;
and so is, by its column, a display name that the database cannot store.
The mail of a registration is not waited for, and no other registration reads
what it writes.
-/

namespace ChatBackend.Auth.RegistrationRace

open Effects
open Relational
open Transition
open ChatBackend.Auth.TokenStore
open ChatBackend.Auth.Sessions
open ChatBackend.Auth.EmailTokens
open ChatBackend.Auth.EmailTokens.RegisterUser

/-! ## Overlapping registrations -/

/-- A registration, and what it draws. -/
structure RegisterCall where
  input : Input
  draws : Draws

/-- Overlapping registrations on the account tables. -/
abbrev Registrations (Name : Type*) :=
  Config Name AccountPort AuthState Failure Registration

/-- The registrations before any of them has taken a turn. -/
def started {Name : Type*} (deps : AccountDeps) (calls : Name → RegisterCall)
    (state : AuthState) : Registrations Name where
  shared := state
  threads name := execute deps (calls name).input (calls name).draws

/-! ## Control points -/

/-- Where a registration stands. -/
inductive ControlPoint where
  | checking
  | hashing
  | creating (passwordHash : String)
  | opening (user : User)
  | signing (user : User)
  | returned (registration : Registration)
  | failed (error : Failure)

section Points

variable (deps : AccountDeps) (call : RegisterCall)

/-- What a registration has still to do at a control point. -/
def ControlPoint.program : ControlPoint → AccountProgram Registration
  | .checking => execute deps call.input call.draws
  | .hashing => do
      let passwordHash ←
        auth (passwordHasher.hash call.input.password call.draws.salt)
      let user ← AccountOp.await
        (.createUser (newUser deps call.input call.draws passwordHash))
      let session ← auth <| createSession deps.toSessionDeps
        call.draws.session call.draws.userId
        (some { userAgent := call.input.userAgent, ip := call.input.ip })
      return { session with user := toPublicUser user }
  | .creating passwordHash => do
      let user ← AccountOp.await
        (.createUser (newUser deps call.input call.draws passwordHash))
      let session ← auth <| createSession deps.toSessionDeps
        call.draws.session call.draws.userId
        (some { userAgent := call.input.userAgent, ip := call.input.ip })
      return { session with user := toPublicUser user }
  | .opening user => do
      let session ← auth <| createSession deps.toSessionDeps
        call.draws.session call.draws.userId
        (some { userAgent := call.input.userAgent, ip := call.input.ip })
      return { session with user := toPublicUser user }
  | .signing user => do
      let accessToken ← auth <| tokenSigner.signAccess
        { sub := call.draws.userId, jti := call.draws.session.jti }
      let session : Session :=
        { accessToken, refreshToken := call.draws.session.raw }
      return { session with user := toPublicUser user }
  | .returned registration => .done registration
  | .failed error => .fail error

/-- The refresh token of the session that a registration opens. -/
def firstToken : NewRefreshToken :=
  rootToken deps.toSessionDeps call.draws.session call.draws.userId
    (some { userAgent := call.input.userAgent, ip := call.input.ip })

variable (now : Time) (state : AuthState)

/-- What a turn of a registration can do. -/
inductive Moves : ControlPoint → ControlPoint → AuthState → Prop where
  | free (unknown : ∀ user ∈ state.users,
        user.email ≠ deps.normalizeEmail call.input.email) :
      Moves .checking .hashing state
  | known (user : User) (stored : user ∈ state.users)
      (same : user.email = deps.normalizeEmail call.input.email) :
      Moves .checking (.failed (.conflictError "Email already in use")) state
  | hash :
      Moves .hashing
        (.creating (deps.argon2id call.input.password call.draws.salt)) state
  | create (passwordHash : String)
      (accepted : PgUserRepository.createViolation state.users
        (newUser deps call.input call.draws passwordHash) = none) :
      Moves (.creating passwordHash)
        (.opening ((newUser deps call.input call.draws
          passwordHash).insertedAt now))
        { state with
          users := state.users ++
            [(newUser deps call.input call.draws
              passwordHash).insertedAt now] }
  | reject (passwordHash : String) (cause : DatabaseError)
      (refused : PgUserRepository.createViolation state.users
        (newUser deps call.input call.draws passwordHash) = some cause) :
      Moves (.creating passwordHash) (.failed (.databaseError cause)) state
  | insert (user : User)
      (accepted : PgRefreshTokenRepository.insertViolation state.users
        state.refreshTokens (firstToken deps call) = none) :
      Moves (.opening user) (.signing user)
        { state with
          refreshTokens :=
            state.refreshTokens ++ [(firstToken deps call).insertedAt now] }
  | clash (user : User) (cause : DatabaseError)
      (refused : PgRefreshTokenRepository.insertViolation state.users
        state.refreshTokens (firstToken deps call) = some cause) :
      Moves (.opening user) (.failed (.databaseError cause)) state
  | sign (user : User) (registration : Registration) :
      Moves (.signing user) (.returned registration) state
  | rest (registration : Registration) :
      Moves (.returned registration) (.returned registration) state
  | still (error : Failure) : Moves (.failed error) (.failed error) state

end Points

section Resuming

variable (deps : AccountDeps) (call : RegisterCall)
  (stores : storable (deps.normalizeEmail call.input.email) = true)
  (now : Time) (state : AuthState)

include stores in
/-- A turn of a registration does nothing else. -/
theorem resume_moves (point : ControlPoint) :
    ∃ next after, (point.program deps call).resume
        (accountAdapter deps.toAuthServices) now state =
          (next.program deps call, after) ∧
      Moves deps call now state point next after := by
  cases point with
  | checking =>
      have looked : accountAdapter deps.toAuthServices
          (.findUserByEmail (deps.normalizeEmail call.input.email)) now state =
            .ok (_, state) :=
        accountAdapter_findUserByEmail_eq_ok_iff.mpr ⟨stores, rfl, rfl⟩
      cases found : first (fun user => user.email =
          deps.normalizeEmail call.input.email) state.users with
      | none =>
          refine ⟨.hashing, state, ?_, .free (first_eq_none_iff.mp found)⟩
          rw [ControlPoint.program, execute, Program.perform_bind,
            Program.resume_call_ok _ looked, found]
          rfl
      | some user =>
          have same := condition_of_first found
          refine ⟨_, state, ?_, .known user (mem_of_first found) same⟩
          rw [ControlPoint.program, execute, Program.perform_bind,
            Program.resume_call_ok _ looked, found]
          rfl
  | hashing => exact ⟨_, state, rfl, .hash⟩
  | creating passwordHash =>
      cases violated : PgUserRepository.createViolation state.users
          (newUser deps call.input call.draws passwordHash) with
      | none =>
          refine ⟨_, _, ?_, .create passwordHash violated⟩
          refine Program.resume_call_ok _ ?_
          simp only [accountAdapter, violated]
      | some cause =>
          refine ⟨_, _, ?_, .reject passwordHash cause violated⟩
          refine Program.resume_call_error _ ?_
          simp only [accountAdapter, violated]
  | opening user =>
      cases violated : PgRefreshTokenRepository.insertViolation state.users
          state.refreshTokens (firstToken deps call) with
      | none =>
          refine ⟨.signing user, _, ?_, .insert user violated⟩
          exact Program.resume_call_ok _
            (@authAdapter_insert deps.toAuthServices now state _ violated)
      | some cause =>
          refine ⟨_, _, ?_, .clash user cause violated⟩
          exact Program.resume_call_error _
            (@authAdapter_insert_refused deps.toAuthServices now state _ cause
              violated)
  | signing user => exact ⟨.returned _, state, rfl, .sign user _⟩
  | returned registration => exact ⟨_, _, rfl, .rest registration⟩
  | failed error => exact ⟨_, _, rfl, .still error⟩

end Resuming

/-! ## The race -/

/-- What a registration is about; it has won once its user is created. -/
def stage : AccountOp → Phase
  | .findUserByEmail _ => .waiting
  | .auth (.hashPassword _ _) => .holding
  | .createUser _ => .holding
  | _ => .won

/--
Registrations race for the address, which they look up first.  None is fit with
a display name that the database cannot store.
-/
def race {Name : Type*} (calls : Name → RegisterCall) (email : String) :
    Race Name AccountPort AuthState Failure Registration where
  phase := Conflicts.phase stage
  taken state := ∃ user ∈ state.users, user.email = email
  fit name := storable (calls name).input.displayName = true
  checks _ op := op = .findUserByEmail email

section Stands

variable (deps : AccountDeps) (call : RegisterCall) (state : AuthState)

/-- The ids and the token of a registration are new to the tables. -/
structure NewUserId : Prop where
  id : ∀ user ∈ state.users, user.id ≠ call.draws.userId

structure NewToken : Prop where
  id : ∀ row ∈ state.refreshTokens, row.id ≠ call.draws.session.id
  hash : ∀ row ∈ state.refreshTokens,
    row.tokenHash ≠ deps.hashRefresh call.draws.session.raw

/-- The user of a registration is stored. -/
def Created : Prop :=
  ∃ user ∈ state.users, user.id = call.draws.userId ∧
    user.email = deps.normalizeEmail call.input.email

/-- What a registration relies on at a control point. -/
def Relies : ControlPoint → Prop
  | .checking => NewUserId call state ∧ NewToken deps call state
  | .hashing => NewUserId call state ∧ NewToken deps call state
  | .creating _ => NewUserId call state ∧ NewToken deps call state
  | .opening _ => Created deps call state ∧ NewToken deps call state
  | .signing _ => Created deps call state
  | .returned _ => Created deps call state
  | .failed _ => True

/-- The tables have grown, but not by what the registration has drawn. -/
structure Grows (after : AuthState) : Prop where
  users : ∀ user ∈ state.users, user ∈ after.users
  newUsers : ∀ user ∈ after.users,
    user ∈ state.users ∨ user.id ≠ call.draws.userId
  newTokens : ∀ row ∈ after.refreshTokens, row ∈ state.refreshTokens ∨
    (row.id ≠ call.draws.session.id ∧
      row.tokenHash ≠ deps.hashRefresh call.draws.session.raw)

variable {deps call state} {after : AuthState}

theorem NewUserId.grows (new : NewUserId call state)
    (grows : Grows deps call state after) : NewUserId call after where
  id := by
    intro user member
    rcases grows.newUsers user member with old | other
    · exact new.id user old
    · exact other

theorem NewToken.grows (new : NewToken deps call state)
    (grows : Grows deps call state after) : NewToken deps call after where
  id := by
    intro row member
    rcases grows.newTokens row member with old | other
    · exact new.id row old
    · exact other.1
  hash := by
    intro row member
    rcases grows.newTokens row member with old | other
    · exact new.hash row old
    · exact other.2

theorem Created.grows (created : Created deps call state)
    (grows : Grows deps call state after) : Created deps call after := by
  obtain ⟨user, member, same, address⟩ := created
  exact ⟨user, grows.users user member, same, address⟩

theorem Relies.grows {point : ControlPoint}
    (relies : Relies deps call state point)
    (grows : Grows deps call state after) : Relies deps call after point := by
  cases point with
  | checking => exact ⟨relies.1.grows grows, relies.2.grows grows⟩
  | hashing => exact ⟨relies.1.grows grows, relies.2.grows grows⟩
  | creating passwordHash =>
      exact ⟨relies.1.grows grows, relies.2.grows grows⟩
  | opening user =>
      exact ⟨Created.grows relies.1 grows, relies.2.grows grows⟩
  | signing user => exact Created.grows relies grows
  | returned registration => exact Created.grows relies grows
  | failed error => trivial

end Stands

/-! ## What a turn does in the race -/

section Turns

variable {Name : Type*} {deps : AccountDeps} {calls : Name → RegisterCall}
  {email : String}

/--
All registrations are of the address, and the generators repeat nothing.  What
the schema accepts as an address, the database can store.
-/
structure Rivals (deps : AccountDeps) (calls : Name → RegisterCall)
    (email : String) : Prop where
  sameEmail : ∀ name, deps.normalizeEmail (calls name).input.email = email
  storable : storable email = true
  userIds : ∀ name other, other ≠ name →
    (calls other).draws.userId ≠ (calls name).draws.userId
  tokenIds : ∀ name other, other ≠ name →
    (calls other).draws.session.id ≠ (calls name).draws.session.id
  hashes : ∀ name other, other ≠ name →
    deps.hashRefresh (calls other).draws.session.raw ≠
      deps.hashRefresh (calls name).draws.session.raw

/-- A registration stands at a control point, and the address is used once. -/
def Stands (deps : AccountDeps) (calls : Name → RegisterCall) (email : String)
    (name : Name) (state : AuthState)
    (program : AccountProgram Registration) : Prop :=
  (state.users.filter fun user => user.email = email).length ≤ 1 ∧
    ∃ point : ControlPoint, program = point.program deps (calls name) ∧
      Relies deps (calls name) state point

variable {name : Name} {now : Time} {state after : AuthState}
  {point next : ControlPoint}

theorem Moves.grows (rivals : Rivals deps calls email) {other : Name}
    (differ : other ≠ name)
    (moves : Moves deps (calls name) now state point next after) :
    Grows deps (calls other) state after := by
  have same : Grows deps (calls other) state state :=
    ⟨fun _ member => member, fun _ member => .inl member,
      fun _ member => .inl member⟩
  cases moves with
  | create passwordHash accepted =>
      refine ⟨fun user member => List.mem_append_left _ member, ?_,
        fun _ member => .inl member⟩
      intro user member
      rcases List.mem_append.mp member with old | new
      · exact .inl old
      · rw [List.mem_singleton.mp new]
        exact .inr (rivals.userIds other name differ.symm)
  | insert user accepted =>
      refine ⟨fun _ member => member, fun _ member => .inl member, ?_⟩
      intro row member
      rcases List.mem_append.mp member with old | new
      · exact .inl old
      · rw [List.mem_singleton.mp new]
        exact .inr ⟨rivals.tokenIds other name differ.symm,
          rivals.hashes other name differ.symm⟩
  | _ => exact same

theorem Moves.relies (relies : Relies deps (calls name) state point)
    (moves : Moves deps (calls name) now state point next after) :
    Relies deps (calls name) after next := by
  cases moves with
  | free unknown => exact relies
  | hash => exact relies
  | create passwordHash accepted =>
      exact ⟨⟨_, List.mem_concat_self, rfl, rfl⟩, relies.2.id, relies.2.hash⟩
  | insert user accepted => exact relies.1
  | sign user registration => exact relies
  | rest registration => exact relies
  | _ => trivial

/-- An address is stored only if it was not stored before. -/
theorem Moves.once (rivals : Rivals deps calls email)
    (once : (state.users.filter fun user => user.email = email).length ≤ 1)
    (moves : Moves deps (calls name) now state point next after) :
    (after.users.filter fun user => user.email = email).length ≤ 1 := by
  cases moves with
  | create passwordHash accepted =>
      have nobody : (state.users.filter fun user => user.email = email) =
          [] := by
        refine List.filter_eq_nil_iff.mpr fun user member => ?_
        rw [decide_eq_true_iff, ← rivals.sameEmail name]
        exact (PgUserRepository.createViolation_eq_none_iff.mp accepted).2.2
          user member
      rw [List.filter_append, nobody, List.nil_append]
      exact List.length_filter_le _ _
  | _ => exact once

/-- The token of a new user is always accepted. -/
theorem not_clash {user : User} {cause : DatabaseError}
    (relies : Relies deps (calls name) state (.opening user)) :
    PgRefreshTokenRepository.insertViolation state.users state.refreshTokens
      (firstToken deps (calls name)) ≠ some cause := by
  obtain ⟨⟨stored, member, same, -⟩, new⟩ := relies
  have accepted : PgRefreshTokenRepository.insertViolation state.users
      state.refreshTokens (firstToken deps (calls name)) = none :=
    PgRefreshTokenRepository.insertViolation_eq_none_iff.mpr
      ⟨new.id, new.hash, ⟨stored, member, same⟩,
        PgRefreshTokenRepository.references_none _,
        PgRefreshTokenRepository.references_none _⟩
  rw [accepted]
  exact (Option.some_ne_none cause).symm

/-- The texts of a registration are its address and its display name. -/
theorem storable_texts_iff (rivals : Rivals deps calls email)
    {passwordHash : String} :
    Storable (newUser deps (calls name).input (calls name).draws
        passwordHash).texts ↔
      storable (calls name).input.displayName = true := by
  simp [NewUser.texts, newUser, Storable, rivals.sameEmail, rivals.storable]

/-- A rejected user has an address that is taken, or is not fit. -/
theorem refused_of_rejected (rivals : Rivals deps calls email)
    (new : NewUserId (calls name) state) {passwordHash : String}
    {cause : DatabaseError}
    (refused : PgUserRepository.createViolation state.users
      (newUser deps (calls name).input (calls name).draws passwordHash) =
        some cause) :
    (∃ user ∈ state.users, user.email = email) ∨
      ¬ storable (calls name).input.displayName = true := by
  by_contra accepts
  rw [not_or, not_not] at accepts
  obtain ⟨free, stores⟩ := accepts
  push Not at free
  have accepted : PgUserRepository.createViolation state.users
      (newUser deps (calls name).input (calls name).draws passwordHash) =
        none := by
    refine PgUserRepository.createViolation_eq_none_iff.mpr
      ⟨(storable_texts_iff rivals).mpr stores, new.id, ?_⟩
    intro user member same
    exact free user member (same.trans (rivals.sameEmail name))
  rw [accepted] at refused
  cases refused

theorem Moves.attempt (rivals : Rivals deps calls email)
    (relies : Relies deps (calls name) state point)
    (moves : Moves deps (calls name) now state point next after) :
    (race calls email).Attempt name (point.program deps (calls name)) state
      (next.program deps (calls name)) after := by
  have checks : ∃ op ∈ (ControlPoint.checking.program deps
      (calls name)).pending, (race calls email).checks name op :=
    ⟨_, rfl, congrArg AccountOp.findUserByEmail (rivals.sameEmail name)⟩
  cases moves with
  | free unknown =>
      have vacant : ¬ ∃ user ∈ state.users, user.email = email := by
        rintro ⟨user, member, same⟩
        exact unknown user member (same.trans (rivals.sameEmail name).symm)
      exact .holds checks vacant rfl rfl vacant
  | known user stored same =>
      have taken : ∃ user ∈ state.users, user.email = email :=
        ⟨user, stored, same.trans (rivals.sameEmail name)⟩
      exact .loses checks taken rfl rfl taken
  | hash => exact .stays (by rintro _ ⟨⟩ ⟨⟩) rfl Iff.rfl
  | create passwordHash accepted =>
      obtain ⟨stores, -, newEmail⟩ :=
        PgUserRepository.createViolation_eq_none_iff.mp accepted
      refine .wins (by rintro _ ⟨⟩ ⟨⟩) ?_
        ((storable_texts_iff rivals).mp stores) rfl rfl
        ⟨_, List.mem_concat_self, rivals.sameEmail name⟩
      rintro ⟨user, member, same⟩
      exact newEmail user member (same.trans (rivals.sameEmail name).symm)
  | reject passwordHash cause refused =>
      have unfit := refused_of_rejected rivals relies.1 refused
      exact .breaks (by rintro _ ⟨⟩ ⟨⟩) unfit rfl rfl Iff.rfl
  | insert user accepted =>
      exact .stays (by rintro _ ⟨⟩ ⟨⟩) rfl Iff.rfl
  | clash user cause refused => exact absurd refused (not_clash relies)
  | sign user registration => exact .stays (by rintro _ ⟨⟩ ⟨⟩) rfl Iff.rfl
  | rest registration => exact .stays (by rintro _ ⟨⟩) rfl Iff.rfl
  | still error => exact .stays (by rintro _ ⟨⟩) rfl Iff.rfl

theorem turn (rivals : Rivals deps calls email) (name : Name) (now : Time)
    (state : AuthState) (program : AccountProgram Registration)
    (stands : Stands deps calls email name state program) :
    Race.Turn (race calls email) (Stands deps calls email) name program state
      (program.resume (accountAdapter deps.toAuthServices) now state).1
      (program.resume (accountAdapter deps.toAuthServices) now state).2 := by
  obtain ⟨once, point, rfl, relies⟩ := stands
  obtain ⟨next, after, resumed, moves⟩ :=
    resume_moves deps (calls name)
      (rivals.sameEmail name ▸ rivals.storable) now state point
  rw [resumed]
  have still := moves.once rivals once
  refine ⟨moves.attempt rivals relies, ⟨still, next, rfl, moves.relies relies⟩,
    ?_⟩
  rintro other differ - ⟨-, otherPoint, rfl, otherRelies⟩
  exact ⟨still, otherPoint, rfl, otherRelies.grows (moves.grows rivals differ)⟩

end Turns

/-! ## One user for an address -/

section Results

variable {Name : Type*} (deps : AccountDeps) (calls : Name → RegisterCall)
  (email : String)

/-- One call creates the user of the address, and all others throw. -/
def OneCreates (config : Registrations Name) : Prop :=
  ∃ winner, (∃ registration, config.threads winner = .done registration) ∧
    (∃ user, (config.shared.users.filter fun user => user.email = email) =
      [user] ∧ user.id = (calls winner).draws.userId) ∧
    ∀ other, other ≠ winner → ∃ message,
      config.threads other = .fail (.conflictError message)

/-- A call checks while another one is between its check and its insertion. -/
def Overlaps (config : Registrations Name) (turn : Name × Time) : Prop :=
  config.pending turn.1 = some (.findUserByEmail email) ∧
    ∃ other, other ≠ turn.1 ∧
      Conflicts.phase stage (config.threads other) = .holding

instance [Fintype Name] [DecidableEq Name] (config : Registrations Name)
    (turn : Name × Time) : Decidable (Overlaps email config turn) :=
  inferInstanceAs (Decidable (_ ∧ ∃ _, _ ∧ _))

/-- The address is free, and so is whatever the calls have drawn. -/
structure Vacant (state : AuthState) : Prop where
  free : ∀ user ∈ state.users, user.email ≠ email
  userIds : ∀ name, ∀ user ∈ state.users,
    user.id ≠ (calls name).draws.userId
  tokenIds : ∀ name, ∀ row ∈ state.refreshTokens,
    row.id ≠ (calls name).draws.session.id
  hashes : ∀ name, ∀ row ∈ state.refreshTokens,
    row.tokenHash ≠ deps.hashRefresh (calls name).draws.session.raw

/-- A call whose display name cannot be stored finds the address free. -/
def Misleads (config : Registrations Name) (turn : Name × Time) : Prop :=
  config.pending turn.1 = some (.findUserByEmail email) ∧
    (∀ user ∈ config.shared.users, user.email ≠ email) ∧
      storable (calls turn.1).input.displayName = false

instance (config : Registrations Name) (turn : Name × Time) :
    Decidable (Misleads calls email config turn) :=
  inferInstanceAs (Decidable (_ ∧ (∀ _ ∈ config.shared.users, _) ∧ _))

variable {deps calls email} {state : AuthState} {config : Registrations Name}

theorem supported_started (vacant : Vacant deps calls email state) :
    Race.Supported (Stands deps calls email) (started deps calls state) := by
  intro name
  refine ⟨?_, .checking, rfl, ⟨vacant.userIds name⟩, vacant.tokenIds name,
    vacant.hashes name⟩
  have nobody : (state.users.filter fun user => user.email = email) = [] :=
    List.filter_eq_nil_iff.mpr fun user member => by
      rw [decide_eq_true_iff]
      exact vacant.free user member
  change (state.users.filter fun user => user.email = email).length ≤ 1
  rw [nobody]
  exact Nat.zero_le 1

/-- The user of a registration that has returned is the one of the address. -/
theorem created_of_returned {name : Name} {registration : Registration}
    (rivals : Rivals deps calls email)
    (stands : Stands deps calls email name config.shared (config.threads name))
    (returned : config.threads name = .done registration) :
    ∃ user, (config.shared.users.filter fun user => user.email = email) =
      [user] ∧ user.id = (calls name).draws.userId := by
  obtain ⟨once, point, stand, relies⟩ := stands
  rw [returned] at stand
  cases point with
  | returned registration =>
      obtain ⟨user, member, same, address⟩ := relies
      have listed : user ∈ config.shared.users.filter
          fun user => user.email = email :=
        List.mem_filter.mpr ⟨member, decide_eq_true
          (address.trans (rivals.sameEmail name))⟩
      obtain ⟨only, alone⟩ := List.length_eq_one_iff.mp
        (Nat.le_antisymm once (List.length_pos_of_mem listed))
      rw [alone, List.mem_singleton] at listed
      subst listed
      exact ⟨user, alone, same⟩
  | _ => cases stand

variable [DecidableEq Name]

theorem settled_iff_oneCreates (rivals : Rivals deps calls email)
    (supported : Race.Supported (Stands deps calls email) config)
    (quiescent : config.Quiescent) :
    ((race calls email).contest
        (accountAdapter deps.toAuthServices)).Settled config ↔
      OneCreates calls email config := by
  constructor
  · rintro ⟨winner, won, others⟩
    obtain ⟨registration, returned⟩ :=
      Conflicts.returned_of_won (quiescent winner) won
    exact ⟨winner, ⟨registration, returned⟩,
      created_of_returned rivals (supported winner) returned,
      fun other differ =>
        Conflicts.thrown_of_lost (quiescent other) (others other differ)⟩
  · rintro ⟨winner, ⟨registration, returned⟩, -, others⟩
    refine ⟨winner, congrArg (race calls email).phase returned,
      fun other differ => ?_⟩
    obtain ⟨message, thrown⟩ := others other differ
    exact congrArg (race calls email).phase thrown

/--
One call creates the user exactly if no check comes before its insertion, and
none with a display name that cannot be stored finds the address free.
-/
theorem oneCreates_iff [Nonempty Name] (rivals : Rivals deps calls email)
    (vacant : Vacant deps calls email state) {schedule : List (Name × Time)}
    (quiescent : ((started deps calls state).play
      (accountAdapter deps.toAuthServices) schedule).Quiescent) :
    OneCreates calls email ((started deps calls state).play
        (accountAdapter deps.toAuthServices) schedule) ↔
      Along (Config.advance (accountAdapter deps.toAuthServices))
        (fun config turn =>
          ¬ (Overlaps email config turn ∨ Misleads calls email config turn))
        (started deps calls state) schedule := by
  have supported := supported_started vacant
  have checks (config : Registrations Name) (turn : Name × Time) :
      ((race calls email).contest
          (accountAdapter deps.toAuthServices)).checks config turn ↔
        config.pending turn.1 = some (.findUserByEmail email) := by
    constructor
    · rintro ⟨op, waits, rfl⟩
      exact waits
    · exact fun waits => ⟨_, waits, rfl⟩
  have hinders (config : Registrations Name) (turn : Name × Time) :
      ((race calls email).contest
          (accountAdapter deps.toAuthServices)).Hinders config turn ↔
        Overlaps email config turn ∨ Misleads calls email config turn := by
    refine or_congr (and_congr_left fun _ => checks config turn)
      (and_congr (checks config turn) (and_congr ?_ ?_))
    · change ¬ (∃ user ∈ config.shared.users, user.email = email) ↔ _
      push Not
      exact Iff.rfl
    · exact Bool.not_eq_true _ ▸ Iff.rfl
  have free : ¬ ∃ user ∈ state.users, user.email = email := by
    rintro ⟨user, member, same⟩
    exact vacant.free user member same
  rw [← settled_iff_oneCreates rivals
    (Race.supported_play (turn rivals) supported schedule) quiescent,
    Race.settled_iff (turn rivals) supported free (fun _ => rfl)
      fun name => Conflicts.ended_of_finished (quiescent name)]
  simp only [hinders]

end Results

/-! ## Two registrations -/

section Sample

def sampleAccounts : AccountDeps where
  toSessionDeps := sampleDeps 0
  toLowerCase text := String.ofList (text.toList.map Char.toLower)
  trim := id
  emailVerifyUrlBase := ""
  emailResetUrlBase := ""

def sampleCall (email number : String) : RegisterCall where
  input :=
    { email, password := "password", displayName := "Ana", userAgent := none,
      ip := none }
  draws :=
    { salt := "salt", userId := "user-" ++ number,
      session := sampleDraws 0 number,
      mail := { raw := "mail-" ++ number, id := "mail-" ++ number, now := 0 } }

/-- One address in two spellings. -/
def sampleCalls : Bool → RegisterCall
  | false => sampleCall "Ana@example.com" "0"
  | true => sampleCall "ana@example.com" "1"

def noAccounts : AuthState where
  users := []
  refreshTokens := []
  emailTokens := []

theorem rivals_sample :
    Rivals sampleAccounts sampleCalls "ana@example.com" where
  sameEmail := by decide +kernel
  storable := by decide +kernel
  userIds := by decide +kernel
  tokenIds := by decide +kernel
  hashes := by decide +kernel

theorem vacant_noAccounts :
    Vacant sampleAccounts sampleCalls "ana@example.com" noAccounts where
  free := by rintro _ ⟨⟩
  userIds := by rintro _ _ ⟨⟩
  tokenIds := by rintro _ _ ⟨⟩
  hashes := by rintro _ _ ⟨⟩

/-- The second call begins when the first has returned. -/
def oneByOne : List (Bool × Time) :=
  [(false, 1), (false, 2), (false, 3), (false, 4), (false, 5), (true, 6)]

/-- Both calls check before either inserts. -/
def bothCheck : List (Bool × Time) :=
  [(false, 1), (true, 2), (false, 3), (false, 4), (true, 5), (true, 6),
    (false, 7), (false, 8)]

end Sample

end ChatBackend.Auth.RegistrationRace
