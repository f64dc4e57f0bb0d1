import ChatBackend.Auth.EmailTokenSafety
import ChatBackend.Effects.Faults

/-!
# A password reset that fails half-way

A reset consumes its token, hashes the new password, updates the user and
revokes the refresh tokens, each by a statement of its own.  Whichever of the
later steps fails, the token is used.  If the last one fails, the password is
changed besides, and the sessions that were open stay open.
-/

namespace ChatBackend.Auth.ResetFailures

open Effects
open Relational
open ChatBackend.Auth.TokenStore
open ChatBackend.Auth.Sessions
open ChatBackend.Auth.EmailTokens
open ChatBackend.Auth.EmailTokenSafety

/-! ## The steps that fail -/

/-- The steps of a reset that can fail once the token is consumed. -/
inductive Point where
  | hash
  | update
  | revokeAllForUser
deriving DecidableEq, Repr

/-- The operations of the port that fail at a point. -/
def Point.breaks : Point → AuthOp → Bool
  | .hash, .hashPassword _ _ => true
  | .update, .userRepo (.update _ _) => true
  | .revokeAllForUser, .refreshTokenRepo (.revokeAllForUser _) => true
  | _, _ => false

/-- The operation is not carried out. -/
def Breaks (fault : Option Point) (op : AuthOp) : Prop :=
  fault.any (fun point => point.breaks op) = true

instance (fault : Option Point) : DecidablePred (Breaks fault) :=
  fun _ => inferInstanceAs (Decidable (_ = true))

/-- `ConfirmPasswordReset.execute`, when the calls at a point throw the error. -/
def reset (services : AuthServices) (fault : Option Point) (error : Failure)
    (salt rawToken newPassword : String) (now : Time) (state : AuthState) :
    Except Failure Unit × AuthState :=
  (ConfirmPasswordReset.execute services salt rawToken newPassword).run
    (failing (authAdapter services) (Breaks fault) error) now state

/-! ## All or nothing -/

section Statement

variable (services : AuthServices) (salt newPassword : String)
  (token : EmailToken)

/-- The token is used, the password changed and every session revoked. -/
structure Done (after : AuthState) : Prop where
  used : ∃ row ∈ after.emailTokens, row.id = token.id ∧ row.usedAt ≠ none
  changed : ∃ user, userOf token.userId after = some user ∧
    user.passwordHash = services.argon2id newPassword salt
  revoked : ∀ row ∈ after.refreshTokens, row.userId = token.userId →
    row.revokedAt ≠ none

/-- The token is still usable, and nothing else has changed either. -/
structure Untouched (now : Time) (before after : AuthState) : Prop where
  usable : ∃ row ∈ after.emailTokens,
    row.id = token.id ∧ Usable token.tokenHash .reset now row
  unchanged : (userOf token.userId after).map (fun user => user.passwordHash) =
    (userOf token.userId before).map fun user => user.passwordHash
  refreshTokens : after.refreshTokens = before.refreshTokens

/-- The call returns and has done everything, or it throws and did nothing. -/
def AllOrNothing (now : Time) (before : AuthState)
    (outcome : Except Failure Unit × AuthState) : Prop :=
  (outcome.1 = .ok () ∧ Done services salt newPassword token outcome.2) ∨
    ((∃ error, outcome.1 = .error error) ∧
      Untouched token now before outcome.2)

end Statement

/-! ## Tables of reachable states -/

/-- Hashes of email tokens are unique, and their owners exist. -/
structure Issued (state : AuthState) : Prop where
  uniqueHash : UniqueKey (fun row => row.tokenHash) state.emailTokens
  owner : ∀ row ∈ state.emailTokens, ∃ user,
    userOf row.userId state = some user

section Reached

variable {services : AuthServices} {now : Time} {state after : AuthState}
  {op : AccountOp} {answer : op.Answer}

theorem owner_answered {id : String} {user : User}
    (stored : userOf id state = some user)
    (answers : accountAdapter services op now state = .ok (answer, after)) :
    ∃ user, userOf id after = some user := by
  rcases userOf_answered stored answers with kept | ⟨patch, -, patched⟩
  · exact ⟨_, kept⟩
  · exact ⟨_, patched⟩

/-- Every statement on the account tables keeps them so. -/
theorem Issued.answered (issued : Issued state)
    (answers : accountAdapter services op now state = .ok (answer, after)) :
    Issued after := by
  have owned (row : EmailToken) (member : row ∈ state.emailTokens) :
      ∃ user, userOf row.userId after = some user := by
    obtain ⟨user, stored⟩ := issued.owner row member
    exact owner_answered stored answers
  by_cases inserts : ∃ record, op = .insertEmailToken record
  · obtain ⟨record, rfl⟩ := inserts
    obtain ⟨fresh, ⟨user, member, same⟩, rfl⟩ :=
      accountAdapter_insertEmailToken answers
    refine ⟨Unclashing.append issued.uniqueHash fresh, ?_⟩
    intro row inserted
    rcases List.mem_append.mp inserted with old | new
    · exact owned row old
    · rw [List.mem_singleton.mp new]
      exact exists_first member same
  by_cases consumes : ∃ hash kind, op = .auth (.emailTokenRepo
      (.consume hash kind))
  · obtain ⟨hash, kind, rfl⟩ := consumes
    cases answers
    exact ⟨UniqueKey.updateWhere issued.uniqueHash fun _ => rfl,
      forall_mem_updateWhere issued.owner fun row member _ =>
        issued.owner row member⟩
  · have same : after.emailTokens = state.emailTokens :=
      emailTokens_answered answers
        (fun record equal => inserts ⟨record, equal⟩)
        fun hash kind equal => consumes ⟨hash, kind, equal⟩
    exact ⟨same ▸ issued.uniqueHash, same ▸ owned⟩

/-- In every state that a schedule reaches from empty tables they are so. -/
theorem issued_play {Name : Type*} [DecidableEq Name]
    {start : Config Name AccountPort AuthState Failure Unit}
    (unissued : start.shared.emailTokens = [])
    (schedule : List (Name × Time)) :
    Issued (start.play (accountAdapter services) schedule).shared := by
  refine Config.shared_play
    (fun _ _ _ _ _ issued answers => issued.answered answers) ?_ schedule
  constructor
  · rw [unissued]
    exact unclashing_nil
  · rw [unissued]
    exact fun _ none => absurd none List.not_mem_nil

end Reached

/-! ## What a reset leaves -/

/-- The state once the token is consumed. -/
def consumed (hash : String) (now : Time) (state : AuthState) : AuthState :=
  { state with
    emailTokens :=
      updateWhere (Usable hash .reset now) (use now) state.emailTokens }

/-- The state once the user has the new password. -/
def changed (id passwordHash : String) (now : Time) (state : AuthState) :
    AuthState :=
  { state with
    users := updateWhere (fun row => row.id = id)
      (PgUserRepository.patchUser now { passwordHash }) state.users }

/-- The state once the sessions of the user are revoked. -/
def revoked (id : String) (now : Time) (state : AuthState) : AuthState :=
  { state with
    refreshTokens := updateWhere
      (fun row => row.userId = id ∧ row.revokedAt = none)
      (PgRefreshTokenRepository.revoke now) state.refreshTokens }

section Resets

variable {services : AuthServices} {state : AuthState} {token : EmailToken}
  {rawToken newPassword salt : String} {now : Time} {error : Failure}

/-- A token that is consumed is used. -/
theorem not_usable_consumed {hash : String} :
    ∀ row ∈ (consumed hash now state).emailTokens,
      ¬ Usable hash .reset now row := by
  intro row member usable
  obtain ⟨old, -, rfl⟩ := mem_updateWhere.mp member
  split at usable
  case isTrue => exact Option.some_ne_none now usable.2.2.1
  case isFalse unusable => exact unusable usable

theorem userOf_changed {id passwordHash : String} {user : User}
    (stored : userOf id state = some user) :
    userOf id (changed id passwordHash now state) =
      some (PgUserRepository.patchUser now { passwordHash } user) := by
  have keeps (row : User) :
      (PgUserRepository.patchUser now { passwordHash } row).id = id ↔
        row.id = id := Iff.rfl
  unfold userOf at stored ⊢
  have same := condition_of_first stored
  rw [changed, first_updateWhere keeps, stored, Option.map_some, if_pos same]

variable (issued : Issued state) (member : token ∈ state.emailTokens)
  (usable : Usable (services.sha256Sync rawToken) .reset now token)

include issued member usable

/-- Nothing that can fail precedes the consumption of the token. -/
theorem reset_eq (fault : Option Point) :
    reset services fault error salt rawToken newPassword now state =
      (do
        let passwordHash ← passwordHasher.hash newPassword salt
        let _ ← userRepo.update token.userId { passwordHash }
        refreshTokenRepo.revokeAllForUser token.userId :
          AuthProgram Unit).run
        (failing (authAdapter services) (Breaks fault) error) now
        (consumed (services.sha256Sync rawToken) now state) := by
  have found : first (Usable (services.sha256Sync rawToken) .reset now)
      state.emailTokens = some token :=
    first_eq_some_of_unique member usable fun other otherMember otherUsable =>
      issued.uniqueHash.eq_of_key otherMember member
        (otherUsable.1.trans usable.1.symm)
  have sound : ¬ Breaks fault (.emailTokenRepo
      (.consume (services.sha256Sync rawToken) .reset)) := by
    cases fault with
    | none => exact Bool.false_ne_true
    | some point => cases point <;> exact Bool.false_ne_true
  have answered : authAdapter services (.emailTokenRepo
      (.consume (services.sha256Sync rawToken) .reset)) now state =
        .ok ((first (Usable (services.sha256Sync rawToken) .reset now)
            state.emailTokens).map (use now),
          consumed (services.sha256Sync rawToken) now state) := rfl
  rw [found] at answered
  rw [reset, ConfirmPasswordReset.execute, emailTokenRepo.consume,
    Program.perform_bind, run_failing_of_sound _ sound answered]
  rfl

theorem reset_hash :
    reset services (some .hash) error salt rawToken newPassword now state =
      (.error error,
        consumed (services.sha256Sync rawToken) now state) := by
  rw [reset_eq issued member usable, passwordHasher.hash, Program.perform_bind]
  exact run_failing_of_broken _ rfl

theorem reset_update :
    reset services (some .update) error salt rawToken newPassword now state =
      (.error error,
        consumed (services.sha256Sync rawToken) now state) := by
  rw [reset_eq issued member usable, passwordHasher.hash, Program.perform_bind,
    run_failing_of_sound _ Bool.false_ne_true rfl, userRepo.update,
    Program.perform_bind]
  exact run_failing_of_broken _ rfl

/-- Past the hash and the update, the revocation is what is left. -/
theorem reset_eq_of_changed
    (later : fault = none ∨ fault = some .revokeAllForUser) :
    reset services fault error salt rawToken newPassword now state =
      (refreshTokenRepo.revokeAllForUser token.userId).run
        (failing (authAdapter services) (Breaks fault) error) now
        (changed token.userId (services.argon2id newPassword salt) now
          (consumed (services.sha256Sync rawToken) now state)) := by
  obtain ⟨user, stored⟩ : ∃ user, userOf token.userId
      (consumed (services.sha256Sync rawToken) now state) = some user :=
    issued.owner token member
  have hashes : ¬ Breaks fault (.hashPassword newPassword salt) := by
    rcases later with rfl | rfl <;> exact Bool.false_ne_true
  have updates (patch : UserPatch) :
      ¬ Breaks fault (.userRepo (.update token.userId patch)) := by
    rcases later with rfl | rfl <;> exact Bool.false_ne_true
  rw [reset_eq issued member usable, passwordHasher.hash, Program.perform_bind,
    run_failing_of_sound _ hashes rfl, userRepo.update, Program.perform_bind,
    run_failing_of_sound _ (updates _)
      (authAdapter_update (UserPatch.storable_of_kept rfl rfl) stored)]
  rfl

/-- The password is changed, and the sessions stay as they were. -/
theorem reset_revokeAllForUser :
    reset services (some .revokeAllForUser) error salt rawToken newPassword
        now state =
      (.error error,
        changed token.userId (services.argon2id newPassword salt) now
          (consumed (services.sha256Sync rawToken) now state)) := by
  rw [reset_eq_of_changed issued member usable (.inr rfl)]
  exact run_failing_of_broken _ rfl

theorem reset_none :
    reset services none error salt rawToken newPassword now state =
      (.ok (),
        revoked token.userId now
          (changed token.userId (services.argon2id newPassword salt) now
            (consumed (services.sha256Sync rawToken) now state))) := by
  rw [reset_eq_of_changed issued member usable (.inl rfl)]
  exact run_failing_of_sound _ Bool.false_ne_true rfl

end Resets

/-! ## Exactness -/

section Exactness

variable {services : AuthServices} {state : AuthState} {token : EmailToken}
  {rawToken newPassword salt : String} {now : Time} {error : Failure}
  {fault : Option Point}

/-- A reset with no failure does everything. -/
theorem done_reset (issued : Issued state) (member : token ∈ state.emailTokens)
    (usable : Usable (services.sha256Sync rawToken) .reset now token) :
    Done services salt newPassword token
      (revoked token.userId now
        (changed token.userId (services.argon2id newPassword salt) now
          (consumed (services.sha256Sync rawToken) now state))) where
  used :=
    ⟨use now token, mem_updateWhere.mpr ⟨token, member, (if_pos usable).symm⟩,
      rfl, Option.some_ne_none now⟩
  changed := by
    obtain ⟨user, stored⟩ := issued.owner token member
    exact ⟨_, userOf_changed stored, rfl⟩
  revoked := by
    intro row there owner
    obtain ⟨old, -, rfl⟩ := mem_updateWhere.mp there
    by_cases selected : old.userId = token.userId ∧ old.revokedAt = none
    · rw [if_pos selected]
      exact Option.some_ne_none now
    · rw [if_neg selected] at owner ⊢
      exact fun unrevoked => selected ⟨owner, unrevoked⟩

/-- A reset that throws when the token is consumed is neither. -/
theorem not_allOrNothing {outcome : Except Failure Unit × AuthState}
    (usable : Usable (services.sha256Sync rawToken) .reset now token)
    (throws : outcome.1 = .error error)
    (spent : outcome.2.emailTokens =
      (consumed (services.sha256Sync rawToken) now state).emailTokens) :
    ¬ AllOrNothing services salt newPassword token now state outcome := by
  rintro (⟨returns, -⟩ | ⟨-, untouched⟩)
  · rw [throws] at returns
    cases returns
  · obtain ⟨row, member, -, stillUsable⟩ := untouched.usable
    rw [spent] at member
    rw [usable.1] at stillUsable
    exact not_usable_consumed row member stillUsable

theorem throws_of_fault (issued : Issued state)
    (member : token ∈ state.emailTokens)
    (usable : Usable (services.sha256Sync rawToken) .reset now token)
    (point : Point) :
    (reset services (some point) error salt rawToken newPassword now
        state).1 = .error error ∧
      (reset services (some point) error salt rawToken newPassword now
        state).2.emailTokens =
          (consumed (services.sha256Sync rawToken) now state).emailTokens := by
  cases point with
  | hash =>
      rw [reset_hash issued member usable]
      exact ⟨rfl, rfl⟩
  | update =>
      rw [reset_update issued member usable]
      exact ⟨rfl, rfl⟩
  | revokeAllForUser =>
      rw [reset_revokeAllForUser issued member usable]
      exact ⟨rfl, rfl⟩

/-- A reset is all or nothing exactly when none of its steps fails. -/
theorem allOrNothing_iff {Name : Type} [DecidableEq Name]
    (services : AuthServices)
    (start : Config Name AccountPort AuthState Failure Unit)
    (unissued : start.shared.emailTokens = [])
    (schedule : List (Name × Time)) (token : EmailToken)
    (rawToken newPassword salt : String) (now : Time)
    (fault : Option Point) (error : Failure) :
    let state := (start.play (accountAdapter services) schedule).shared
    token ∈ state.emailTokens →
      Usable (services.sha256Sync rawToken) .reset now token →
      (AllOrNothing services salt newPassword token now state
          (reset services fault error salt rawToken newPassword now state) ↔
        fault = none) := by
  intro state member usable
  have issued : Issued state := issued_play unissued schedule
  cases fault with
  | none =>
      refine ⟨fun _ => rfl, fun _ => .inl ?_⟩
      rw [reset_none issued member usable]
      exact ⟨rfl, done_reset issued member usable⟩
  | some point =>
      obtain ⟨throws, spent⟩ := @throws_of_fault services state token rawToken
        newPassword salt now error issued member usable point
      exact ⟨fun all => absurd all (not_allOrNothing usable throws spent),
        nofun⟩

end Exactness

/-! ## A sample run -/

/-- An account with an open session asks for a reset. -/
def sampleRequests : Bool → EmailCall
  | false => .registerUser
      { email := "ana@example.com", password := "old password",
        displayName := "Ana", userAgent := none, ip := none }
      { salt := "salt-0", userId := "user-1",
        session := sampleDraws 0 "0",
        mail := { raw := "raw", id := "email-token-0", now := 0 } }
  | true => .requestPasswordReset "ana@example.com"
      { raw := sampleRaw, id := "email-token-1", now := 0 }

def sampleRequested : AuthState :=
  ((begin sampleAccountDeps sampleRequests
      { users := [], refreshTokens := [], emailTokens := [] }).play
    (accountAdapter sampleAccountDeps.toAuthServices)
    [(false, 0), (false, 1), (false, 2), (false, 3), (false, 4), (true, 5),
      (true, 6)]).shared

/-- The reset token that is mailed. -/
def sampleResetToken : EmailToken :=
  (resetToken sampleAccountDeps
    { raw := sampleRaw, id := "email-token-1", now := 0 } "user-1").row

/-- The sessions cannot be revoked. -/
theorem reset_leaves_sessions :
    let outcome := reset sampleAccountDeps.toAuthServices
      (some .revokeAllForUser) .typeError "salt" sampleRaw "new password" 7
      sampleRequested
    sampleResetToken ∈ sampleRequested.emailTokens ∧
      Usable (sampleAccountDeps.sha256Sync sampleRaw) .reset 7
        sampleResetToken ∧
      outcome.1 = .error .typeError ∧
      (outcome.2.users.map fun user => user.passwordHash) =
        ["saltnew password"] ∧
      (outcome.2.refreshTokens.map fun row => row.revokedAt) = [none] ∧
      (outcome.2.emailTokens.map fun row => row.usedAt) = [some 7] ∧
      ¬ AllOrNothing sampleAccountDeps.toAuthServices "salt" "new password"
        sampleResetToken 7 sampleRequested outcome := by
  have throws : (reset sampleAccountDeps.toAuthServices
      (some .revokeAllForUser) .typeError "salt" sampleRaw "new password" 7
      sampleRequested).1 = .error .typeError := by decide +kernel
  have used : ∀ row ∈ (reset sampleAccountDeps.toAuthServices
      (some .revokeAllForUser) .typeError "salt" sampleRaw "new password" 7
      sampleRequested).2.emailTokens, row.usedAt ≠ none := by decide +kernel
  refine ⟨by decide +kernel, by decide +kernel, throws, by decide +kernel,
    by decide +kernel, by decide +kernel, ?_⟩
  rintro (⟨returns, -⟩ | ⟨-, untouched⟩)
  · rw [throws] at returns
    cases returns
  · obtain ⟨row, member, -, usable⟩ := untouched.usable
    exact used row member usable.2.2.1

theorem allOrNothing_iff_sound :
    AllOrNothing sampleAccountDeps.toAuthServices "salt" "new password"
      sampleResetToken 7 sampleRequested
      (reset sampleAccountDeps.toAuthServices none .typeError "salt"
        sampleRaw "new password" 7 sampleRequested) :=
  (allOrNothing_iff sampleAccountDeps.toAuthServices
    (begin sampleAccountDeps sampleRequests
      { users := [], refreshTokens := [], emailTokens := [] })
    rfl
    [(false, 0), (false, 1), (false, 2), (false, 3), (false, 4), (true, 5),
      (true, 6)]
    sampleResetToken sampleRaw "new password" "salt" 7 none .typeError
    (by decide +kernel) (by decide +kernel)).mpr rfl

end ChatBackend.Auth.ResetFailures
