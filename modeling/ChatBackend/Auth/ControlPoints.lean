import ChatBackend.Auth.Sessions
import ChatBackend.Effects.Interleaving

/-!
# Control points of the calls on refresh tokens

When calls overlap, each of them stands at one of its awaits.  `ControlPoint`
names these places together with the rows the call has read there; the row is
the snapshot of the moment of the read.  `Moves` lists what one turn of a call
can do, guards included, and `resume_moves` says that a turn does nothing else.
-/

namespace ChatBackend.Auth.ControlPoints

open Effects
open Relational
open ChatBackend.Auth.TokenStore
open ChatBackend.Auth.TokenStore.PgRefreshTokenRepository
open ChatBackend.Auth.Sessions

/-! ## Overlapping calls -/

/-- The calls that overlap: refreshes and the calls that revoke tokens. -/
inductive OverlappingCall where
  | refresh (draws : SessionDraws) (rawToken : String)
      (sessionMeta : Option SessionMeta)
  | logout (rawToken : String)
  | confirmPasswordReset (salt rawToken newPassword : String)
deriving DecidableEq, Repr

def OverlappingCall.isLogout : OverlappingCall → Bool
  | .logout _ => true
  | _ => false

/-- The program of a call, with the token pair it returns if it returns one. -/
def OverlappingCall.program (deps : SessionDeps) :
    OverlappingCall → AuthProgram (Option Session)
  | .refresh draws rawToken sessionMeta =>
      some <$> RefreshSession.execute deps draws rawToken sessionMeta
  | .logout rawToken =>
      (fun _ => none) <$> RevokeSession.execute deps rawToken
  | .confirmPasswordReset salt rawToken newPassword =>
      (fun _ => none) <$>
        ConfirmPasswordReset.execute deps.toAuthServices salt rawToken
          newPassword

/-- Overlapping calls on the account tables. -/
abbrev Calls (Name : Type*) :=
  Config Name AuthPort AuthState Failure (Option Session)

/-- The calls before any of them has taken a turn. -/
def started {Name : Type*} (deps : SessionDeps)
    (call : Name → OverlappingCall) (state : AuthState) : Calls Name where
  shared := state
  threads := fun name => (call name).program deps

/-- One turn of one call, the database clock being the input. -/
abbrev turn {Name : Type*} [DecidableEq Name] (deps : SessionDeps)
    (calls : Calls Name) (label : Name × Time) : Calls Name :=
  calls.advance (authAdapter deps.toAuthServices) label

/-! ## Control points -/

/-- Where a call stands. -/
inductive ControlPoint where
  | reading (draws : SessionDraws) (rawToken : String)
      (sessionMeta : Option SessionMeta)
  | checking (draws : SessionDraws) (current : RefreshToken)
      (replacedById : String) (sessionMeta : Option SessionMeta)
  | inserting (draws : SessionDraws) (current : RefreshToken)
      (sessionMeta : Option SessionMeta)
  | marking (draws : SessionDraws) (current : RefreshToken)
  | signing (draws : SessionDraws) (current : RefreshToken)
  | refusing (current : RefreshToken)
  | logoutReading (rawToken : String)
  | logoutMarking (token : RefreshToken)
  | consuming (salt rawToken newPassword : String)
  | hashing (userId salt newPassword : String)
  | updating (userId passwordHash : String)
  | userRevoking (userId : String)
  | returned (result : Option Session)
  | failed (error : Failure)

namespace ControlPoint

/-- What a call has still to do at a control point. -/
def program (deps : SessionDeps) :
    ControlPoint → AuthProgram (Option Session)
  | .reading draws rawToken sessionMeta =>
      some <$> RefreshSession.execute deps draws rawToken sessionMeta
  | .checking draws current replacedById sessionMeta =>
      some <$> do
        match ← refreshTokenRepo.findById replacedById with
        | none => RefreshSession.refuse current
        | some replacement =>
            if replacement.revokedAt = none ∧
                draws.now < replacement.expiresAt then
              RefreshSession.rotateToken deps draws replacement sessionMeta
            else RefreshSession.refuse current
  | .inserting draws current sessionMeta =>
      some <$> RefreshSession.rotateToken deps draws current sessionMeta
  | .marking draws current =>
      some <$> do
        refreshTokenRepo.markRevoked current.id (some draws.id)
        let accessToken ←
          tokenSigner.signAccess { sub := current.userId, jti := draws.jti }
        return { accessToken, refreshToken := draws.raw }
  | .signing draws current =>
      some <$> do
        let accessToken ←
          tokenSigner.signAccess { sub := current.userId, jti := draws.jti }
        return { accessToken, refreshToken := draws.raw }
  | .refusing current => some <$> RefreshSession.refuse current
  | .logoutReading rawToken =>
      (fun _ => none) <$> RevokeSession.execute deps rawToken
  | .logoutMarking token =>
      (fun _ => none) <$> refreshTokenRepo.markRevoked token.id none
  | .consuming salt rawToken newPassword =>
      (fun _ => none) <$>
        ConfirmPasswordReset.execute deps.toAuthServices salt rawToken
          newPassword
  | .hashing userId salt newPassword =>
      (fun _ => none) <$> do
        let passwordHash ← passwordHasher.hash newPassword salt
        let _ ← userRepo.update userId { passwordHash }
        refreshTokenRepo.revokeAllForUser userId
  | .updating userId passwordHash =>
      (fun _ => none) <$> do
        let _ ← userRepo.update userId { passwordHash }
        refreshTokenRepo.revokeAllForUser userId
  | .userRevoking userId =>
      (fun _ => none) <$> refreshTokenRepo.revokeAllForUser userId
  | .returned result => .done result
  | .failed error => .fail error

/-- Where a call starts. -/
def start : OverlappingCall → ControlPoint
  | .refresh draws rawToken sessionMeta => .reading draws rawToken sessionMeta
  | .logout rawToken => .logoutReading rawToken
  | .confirmPasswordReset salt rawToken newPassword =>
      .consuming salt rawToken newPassword

theorem program_start (deps : SessionDeps) (call : OverlappingCall) :
    (start call).program deps = call.program deps := by
  cases call <;> rfl

end ControlPoint

/-! ## Moves -/

/-- The state with another `refresh_tokens` table. -/
def withTokens (state : AuthState) (rows : List RefreshToken) : AuthState :=
  { state with refreshTokens := rows }

/-- What one turn of a call can do. -/
inductive Moves (deps : SessionDeps) (now : Time) (state : AuthState) :
    ControlPoint → ControlPoint → AuthState → Prop where
  | unknown {draws rawToken sessionMeta}
      (notFound :
        first (fun row => row.tokenHash = deps.hashRefresh rawToken)
          state.refreshTokens = none) :
      Moves deps now state (.reading draws rawToken sessionMeta)
        (.failed (.authError "Invalid refresh token")) state
  | passed {draws rawToken sessionMeta current}
      (found :
        first (fun row => row.tokenHash = deps.hashRefresh rawToken)
          state.refreshTokens = some current)
      (unrevoked : current.revokedAt = none)
      (unexpired : ¬ current.expiresAt < draws.now) :
      Moves deps now state (.reading draws rawToken sessionMeta)
        (.inserting draws current sessionMeta) state
  | expired {draws rawToken sessionMeta current}
      (found :
        first (fun row => row.tokenHash = deps.hashRefresh rawToken)
          state.refreshTokens = some current)
      (unrevoked : current.revokedAt = none)
      (expired : current.expiresAt < draws.now) :
      Moves deps now state (.reading draws rawToken sessionMeta)
        (.failed (.authError "Refresh token expired")) state
  | graced {draws rawToken sessionMeta current replacedById}
      (found :
        first (fun row => row.tokenHash = deps.hashRefresh rawToken)
          state.refreshTokens = some current)
      (revoked : current.revokedAt ≠ none)
      (replaced : current.replacedById = some replacedById)
      (grace : 0 < deps.graceWindowSec) :
      Moves deps now state (.reading draws rawToken sessionMeta)
        (.checking draws current replacedById sessionMeta) state
  | replayed {draws rawToken sessionMeta current}
      (found :
        first (fun row => row.tokenHash = deps.hashRefresh rawToken)
          state.refreshTokens = some current)
      (revoked : current.revokedAt ≠ none) :
      Moves deps now state (.reading draws rawToken sessionMeta)
        (.refusing current) state
  | replaced {draws current replacedById sessionMeta replacement}
      (found :
        first (fun row => row.id = replacedById) state.refreshTokens =
          some replacement)
      (unrevoked : replacement.revokedAt = none)
      (unexpired : draws.now < replacement.expiresAt) :
      Moves deps now state (.checking draws current replacedById sessionMeta)
        (.inserting draws replacement sessionMeta) state
  | notReplaced {draws current replacedById sessionMeta} :
      Moves deps now state (.checking draws current replacedById sessionMeta)
        (.refusing current) state
  | inserted {draws current sessionMeta}
      (accepted :
        insertViolation state.users state.refreshTokens
          (RefreshSession.successor deps draws current sessionMeta) = none) :
      Moves deps now state (.inserting draws current sessionMeta)
        (.marking draws current)
        (withTokens state
          (state.refreshTokens ++
            [(RefreshSession.successor deps draws current
              sessionMeta).insertedAt now]))
  | insertRefused {draws current sessionMeta cause} :
      Moves deps now state (.inserting draws current sessionMeta)
        (.failed (.databaseError cause)) state
  | marked {draws current} :
      Moves deps now state (.marking draws current) (.signing draws current)
        (withTokens state
          (updateWhere (fun row => row.id = current.id)
            (replace now (some draws.id)) state.refreshTokens))
  | markRefused {draws current}
      (dangling : ¬ References state.refreshTokens (some draws.id)) :
      Moves deps now state (.marking draws current)
        (.failed
          (.databaseError
            (.foreignKeyViolation "refresh_tokens_replaced_by_id_fkey")))
        state
  | signed {draws current accessToken} :
      Moves deps now state (.signing draws current)
        (.returned (some { accessToken, refreshToken := draws.raw })) state
  | familyRevoked {current} (replaced : current.replacedById ≠ none) :
      Moves deps now state (.refusing current)
        (.failed (.authError "Invalid refresh token"))
        (withTokens state
          (updateWhere
            (fun row =>
              row.familyId = current.familyId ∧ row.revokedAt = none)
            (revoke now) state.refreshTokens))
  | refused {current} (notReplaced : current.replacedById = none) :
      Moves deps now state (.refusing current)
        (.failed (.authError "Invalid refresh token")) state
  | logoutUnknown {rawToken}
      (notFound :
        first (fun row => row.tokenHash = deps.hashRefresh rawToken)
          state.refreshTokens = none) :
      Moves deps now state (.logoutReading rawToken) (.returned none) state
  | logoutPassed {rawToken token}
      (found :
        first (fun row => row.tokenHash = deps.hashRefresh rawToken)
          state.refreshTokens = some token)
      (unrevoked : token.revokedAt = none) :
      Moves deps now state (.logoutReading rawToken)
        (.logoutMarking token) state
  | logoutIdle {rawToken token}
      (found :
        first (fun row => row.tokenHash = deps.hashRefresh rawToken)
          state.refreshTokens = some token)
      (revoked : token.revokedAt ≠ none) :
      Moves deps now state (.logoutReading rawToken) (.returned none) state
  | logoutMarked {token} :
      Moves deps now state (.logoutMarking token) (.returned none)
        (withTokens state
          (updateWhere (fun row => row.id = token.id) (replace now none)
            state.refreshTokens))
  | consumed {salt rawToken newPassword userId emailTokens} :
      Moves deps now state (.consuming salt rawToken newPassword)
        (.hashing userId salt newPassword)
        { state with emailTokens := emailTokens }
  | notConsumed {salt rawToken newPassword emailTokens} :
      Moves deps now state (.consuming salt rawToken newPassword)
        (.failed (.authError "Invalid or expired reset token"))
        { state with emailTokens := emailTokens }
  | hashed {userId salt newPassword passwordHash} :
      Moves deps now state (.hashing userId salt newPassword)
        (.updating userId passwordHash) state
  | updated {userId passwordHash users} :
      Moves deps now state (.updating userId passwordHash)
        (.userRevoking userId) { state with users := users }
  | notUpdated {userId passwordHash} :
      Moves deps now state (.updating userId passwordHash)
        (.failed .typeError) state
  | userRevoked {userId} :
      Moves deps now state (.userRevoking userId) (.returned none)
        (withTokens state
          (updateWhere
            (fun row => row.userId = userId ∧ row.revokedAt = none)
            (revoke now) state.refreshTokens))
  | returned {result} :
      Moves deps now state (.returned result) (.returned result) state
  | failed {error} :
      Moves deps now state (.failed error) (.failed error) state

section Turns

variable {deps : SessionDeps} {now : Time} {state : AuthState}

/-- After its lookup, a refresh stands at one of the points of `Moves`. -/
theorem lookedUp_moves (draws : SessionDraws) (rawToken : String)
    (sessionMeta : Option SessionMeta) :
    ∃ next : ControlPoint,
      some <$> RefreshSession.lookedUp deps draws sessionMeta
          (first (fun row => row.tokenHash = deps.hashRefresh rawToken)
            state.refreshTokens) =
        next.program deps ∧
      Moves deps now state (.reading draws rawToken sessionMeta) next state := by
  cases found :
      first (fun row => row.tokenHash = deps.hashRefresh rawToken)
        state.refreshTokens with
  | none => exact ⟨.failed _, rfl, .unknown found⟩
  | some current =>
      cases revoked : current.revokedAt with
      | none =>
          by_cases expired : current.expiresAt < draws.now
          · refine ⟨.failed _, ?_, .expired found revoked expired⟩
            simp only [RefreshSession.lookedUp, revoked, expired, if_true]
            rfl
          · refine
              ⟨.inserting draws current sessionMeta, ?_,
                .passed found revoked expired⟩
            simp only [RefreshSession.lookedUp, revoked, expired, if_false]
            rfl
      | some revokedAt =>
          have wasRevoked : current.revokedAt ≠ none := by simp [revoked]
          cases replaced : current.replacedById with
          | none =>
              refine ⟨.refusing current, ?_, .replayed found wasRevoked⟩
              simp only [RefreshSession.lookedUp, revoked,
                RefreshSession.replayed, replaced]
              rfl
          | some replacedById =>
              by_cases grace :
                  0 < deps.graceWindowSec ∧
                    draws.now - revokedAt ≤ deps.graceWindowSec * 1000
              · refine
                  ⟨.checking draws current replacedById sessionMeta, ?_,
                    .graced found wasRevoked replaced grace.1⟩
                simp only [RefreshSession.lookedUp, revoked,
                  RefreshSession.replayed, replaced, if_pos grace]
                rfl
              · refine ⟨.refusing current, ?_, .replayed found wasRevoked⟩
                simp only [RefreshSession.lookedUp, revoked,
                  RefreshSession.replayed, replaced, if_neg grace]
                rfl

theorem checking_moves (draws : SessionDraws) (current : RefreshToken)
    (replacedById : String) (sessionMeta : Option SessionMeta) :
    ∃ next after,
      ((ControlPoint.checking draws current replacedById
          sessionMeta).program deps).resume
          (authAdapter deps.toAuthServices) now state =
        (next.program deps, after) ∧
      Moves deps now state (.checking draws current replacedById sessionMeta)
        next after := by
  have resumed :
      ((ControlPoint.checking draws current replacedById
          sessionMeta).program deps).resume
          (authAdapter deps.toAuthServices) now state =
        (some <$>
          (match first (fun row => row.id = replacedById)
              state.refreshTokens with
          | none => RefreshSession.refuse current
          | some replacement =>
              if replacement.revokedAt = none ∧
                  draws.now < replacement.expiresAt then
                RefreshSession.rotateToken deps draws replacement sessionMeta
              else RefreshSession.refuse current), state) := rfl
  rw [resumed]
  cases found :
      first (fun row => row.id = replacedById) state.refreshTokens with
  | none => exact ⟨.refusing current, state, rfl, .notReplaced⟩
  | some replacement =>
      by_cases usable :
          replacement.revokedAt = none ∧ draws.now < replacement.expiresAt
      · refine
          ⟨.inserting draws replacement sessionMeta, state, ?_,
            .replaced found usable.1 usable.2⟩
        simp only [if_pos usable]
        rfl
      · refine ⟨.refusing current, state, ?_, .notReplaced⟩
        simp only [if_neg usable]
        rfl

theorem inserting_moves (draws : SessionDraws) (current : RefreshToken)
    (sessionMeta : Option SessionMeta) :
    ∃ next after,
      ((ControlPoint.inserting draws current sessionMeta).program
          deps).resume (authAdapter deps.toAuthServices) now state =
        (next.program deps, after) ∧
      Moves deps now state (.inserting draws current sessionMeta)
        next after := by
  cases accepted :
      insertViolation state.users state.refreshTokens
        (RefreshSession.successor deps draws current sessionMeta) with
  | none =>
      refine ⟨.marking draws current, _, ?_, .inserted accepted⟩
      exact Program.resume_call_ok _ (authAdapter_insert accepted)
  | some cause =>
      refine ⟨.failed (.databaseError cause), _, ?_, .insertRefused⟩
      exact Program.resume_call_error _ (authAdapter_insert_refused accepted)

theorem marking_moves (draws : SessionDraws) (current : RefreshToken) :
    ∃ next after,
      ((ControlPoint.marking draws current).program deps).resume
          (authAdapter deps.toAuthServices) now state =
        (next.program deps, after) ∧
      Moves deps now state (.marking draws current) next after := by
  by_cases inserted : References state.refreshTokens (some draws.id)
  · refine ⟨.signing draws current, _, ?_, .marked⟩
    exact Program.resume_call_ok _ (authAdapter_markRevoked inserted)
  · by_cases present : ∃ row ∈ state.refreshTokens, row.id = current.id
    · refine ⟨.failed _, state, ?_, .markRefused inserted⟩
      exact
        Program.resume_call_error _
          (authAdapter_markRevoked_refused present inserted)
    · refine ⟨.signing draws current, _, ?_, .marked⟩
      exact Program.resume_call_ok _ (authAdapter_markRevoked_absent present)

theorem refusing_moves (current : RefreshToken) :
    ∃ next after,
      ((ControlPoint.refusing current).program deps).resume
          (authAdapter deps.toAuthServices) now state =
        (next.program deps, after) ∧
      Moves deps now state (.refusing current) next after := by
  cases replaced : current.replacedById with
  | none =>
      refine ⟨.failed _, state, ?_, .refused replaced⟩
      simp only [ControlPoint.program, RefreshSession.refuse, replaced]
      rfl
  | some id =>
      refine ⟨.failed _, _, ?_, .familyRevoked (by simp [replaced])⟩
      simp only [ControlPoint.program, RefreshSession.refuse, replaced]
      rfl

theorem logoutReading_moves (rawToken : String) :
    ∃ next after,
      ((ControlPoint.logoutReading rawToken).program deps).resume
          (authAdapter deps.toAuthServices) now state =
        (next.program deps, after) ∧
      Moves deps now state (.logoutReading rawToken) next after := by
  have resumed :
      ((ControlPoint.logoutReading rawToken).program deps).resume
          (authAdapter deps.toAuthServices) now state =
        ((fun _ => none) <$>
          RevokeSession.lookedUp
            (first (fun row => row.tokenHash = deps.hashRefresh rawToken)
              state.refreshTokens), state) := rfl
  rw [resumed]
  cases found :
      first (fun row => row.tokenHash = deps.hashRefresh rawToken)
        state.refreshTokens with
  | none => exact ⟨.returned none, state, rfl, .logoutUnknown found⟩
  | some token =>
      cases revoked : token.revokedAt with
      | none =>
          refine
            ⟨.logoutMarking token, state, ?_, .logoutPassed found revoked⟩
          simp only [RevokeSession.lookedUp, revoked]
          rfl
      | some revokedAt =>
          refine
            ⟨.returned none, state, ?_,
              .logoutIdle found (by simp [revoked])⟩
          simp only [RevokeSession.lookedUp, revoked]
          rfl

theorem consuming_moves (salt rawToken newPassword : String) :
    ∃ next after,
      ((ControlPoint.consuming salt rawToken newPassword).program
          deps).resume (authAdapter deps.toAuthServices) now state =
        (next.program deps, after) ∧
      Moves deps now state (.consuming salt rawToken newPassword)
        next after := by
  obtain ⟨token, rows, consumed⟩ :
      ∃ token rows,
        authAdapter deps.toAuthServices
            (.emailTokenRepo (.consume (deps.sha256Sync rawToken) .reset))
            now state =
          .ok (token, { state with emailTokens := rows }) :=
    ⟨_, _, rfl⟩
  rw [ControlPoint.program, ConfirmPasswordReset.execute,
    emailTokenRepo.consume, Program.perform_bind, Program.map_call,
    Program.resume_call_ok _ consumed]
  cases token with
  | none => exact ⟨.failed _, _, rfl, .notConsumed⟩
  | some token =>
      exact ⟨.hashing token.userId salt newPassword, _, rfl, .consumed⟩

theorem updating_moves (userId passwordHash : String) :
    ∃ next after,
      ((ControlPoint.updating userId passwordHash).program deps).resume
          (authAdapter deps.toAuthServices) now state =
        (next.program deps, after) ∧
      Moves deps now state (.updating userId passwordHash) next after := by
  have stores : Storable
      ({ passwordHash := some passwordHash } : UserPatch).texts :=
    UserPatch.storable_of_kept rfl rfl
  cases found : first (fun row => row.id = userId) state.users with
  | none =>
      refine ⟨.failed _, state, ?_, .notUpdated⟩
      exact Program.resume_call_error _ (authAdapter_update_error
        (PgUserRepository.update_missing stores found now))
  | some user =>
      obtain ⟨patched, users, updated⟩ :
          ∃ patched users,
            authAdapter deps.toAuthServices
                (.userRepo
                  (.update userId { passwordHash := some passwordHash }))
                now state =
              .ok (patched, { state with users := users }) :=
        ⟨_, _, authAdapter_update stores found⟩
      exact
        ⟨.userRevoking userId, _, Program.resume_call_ok _ updated,
          .updated⟩

/-- One turn of a call is one of its moves. -/
theorem resume_moves (deps : SessionDeps) (now : Time) (state : AuthState)
    (point : ControlPoint) :
    ∃ next after,
      (point.program deps).resume (authAdapter deps.toAuthServices) now
          state =
        (next.program deps, after) ∧
      Moves deps now state point next after := by
  cases point with
  | reading draws rawToken sessionMeta =>
      obtain ⟨next, program, moves⟩ :=
        lookedUp_moves draws rawToken sessionMeta
      exact ⟨next, state, congrArg (·, state) program, moves⟩
  | checking draws current replacedById sessionMeta =>
      exact checking_moves draws current replacedById sessionMeta
  | inserting draws current sessionMeta =>
      exact inserting_moves draws current sessionMeta
  | marking draws current => exact marking_moves draws current
  | signing draws current => exact ⟨.returned _, state, rfl, .signed⟩
  | refusing current => exact refusing_moves current
  | logoutReading rawToken => exact logoutReading_moves rawToken
  | logoutMarking token =>
      refine ⟨.returned none, _, ?_, .logoutMarked⟩
      exact
        Program.resume_call_ok _
          (authAdapter_markRevoked (references_none _))
  | consuming salt rawToken newPassword =>
      exact consuming_moves salt rawToken newPassword
  | hashing userId salt newPassword =>
      exact ⟨.updating userId _, state, rfl, .hashed⟩
  | updating userId passwordHash => exact updating_moves userId passwordHash
  | userRevoking userId => exact ⟨.returned none, _, rfl, .userRevoked⟩
  | returned result => exact ⟨.returned result, state, rfl, .returned⟩
  | failed error => exact ⟨.failed error, state, rfl, .failed⟩

/-- A token pair is returned only at the end of a rotation. -/
theorem ControlPoint.returned_of_result {point : ControlPoint}
    {session : Session}
    (result : (point.program deps).result? = some (some session)) :
    point = .returned (some session) := by
  cases point with
  | returned answer =>
      exact congrArg ControlPoint.returned (Option.some.inj result)
  | refusing current =>
      simp only [ControlPoint.program, RefreshSession.refuse] at result
      split at result <;> exact absurd result nofun
  | _ => exact absurd result nofun

/-- Only a lookup leads to an insertion. -/
theorem Moves.lookup_of_inserting {point : ControlPoint}
    {draws : SessionDraws} {current : RefreshToken}
    {sessionMeta : Option SessionMeta} {after : AuthState}
    (moves :
      Moves deps now state point (.inserting draws current sessionMeta)
        after) :
    (∃ hash,
        (point.program deps).pending =
          some (.refreshTokenRepo (.findByHash hash))) ∨
      ∃ id,
        (point.program deps).pending =
          some (.refreshTokenRepo (.findById id)) := by
  cases moves with
  | passed found unrevoked unexpired => exact .inl ⟨_, rfl⟩
  | replaced found unrevoked unexpired => exact .inr ⟨_, rfl⟩

/-- A lookup by hash is the first step of a refresh or of a logout. -/
theorem ControlPoint.of_findByHash {point : ControlPoint} {hash : String}
    (pending :
      (point.program deps).pending =
        some (.refreshTokenRepo (.findByHash hash))) :
    (∃ draws rawToken sessionMeta,
        point = .reading draws rawToken sessionMeta ∧
          hash = deps.hashRefresh rawToken) ∨
      ∃ rawToken, point = .logoutReading rawToken := by
  cases point with
  | reading draws rawToken sessionMeta =>
      cases pending
      exact .inl ⟨draws, rawToken, sessionMeta, rfl, rfl⟩
  | logoutReading rawToken => exact .inr ⟨rawToken, rfl⟩
  | refusing current =>
      simp only [ControlPoint.program, RefreshSession.refuse] at pending
      split at pending <;> cases pending
  | _ => cases pending

end Turns

/-! ## What a turn does to the table -/

/-- The row is an unrevoked row of the family. -/
structure Live (family : String) (rows : List RefreshToken)
    (row : RefreshToken) : Prop where
  member : row ∈ rows
  inFamily : row.familyId = family
  unrevoked : row.revokedAt = none

/-- A later version of a row: the same token, revoked if it was revoked. -/
structure Later (row later : RefreshToken) : Prop where
  id : later.id = row.id
  tokenHash : later.tokenHash = row.tokenHash
  familyId : later.familyId = row.familyId
  userId : later.userId = row.userId
  revoked : row.revokedAt ≠ none → later.revokedAt ≠ none

theorem Later.refl (row : RefreshToken) : Later row row :=
  ⟨rfl, rfl, rfl, rfl, fun revoked => revoked⟩

theorem Later.trans {row later last : RefreshToken}
    (first : Later row later) (second : Later later last) :
    Later row last where
  id := second.id.trans first.id
  tokenHash := second.tokenHash.trans first.tokenHash
  familyId := second.familyId.trans first.familyId
  userId := second.userId.trans first.userId
  revoked := fun revoked => second.revoked (first.revoked revoked)

/-- The changes of the updates: they revoke and keep the identity. -/
structure Revokes (change : RefreshToken → RefreshToken) : Prop where
  later : ∀ row, Later row (change row)
  closes : ∀ row, (change row).revokedAt ≠ none

theorem revokes_revoke (now : Time) : Revokes (revoke now) where
  later := fun _ => ⟨rfl, rfl, rfl, rfl, fun _ => by simp [revoke]⟩
  closes := fun _ => by simp [revoke]

theorem revokes_replace (now : Time) (replacedById : Option String) :
    Revokes (replace now replacedById) where
  later := fun _ => ⟨rfl, rfl, rfl, rfl, fun _ => by simp [replace]⟩
  closes := fun _ => by simp [replace]

/-- A turn leaves the table, appends a new row, or revokes rows. -/
inductive Writes (rows : List RefreshToken) : List RefreshToken → Prop where
  | kept : Writes rows rows
  | appended (row : RefreshToken)
      (newId : ∀ other ∈ rows, other.id ≠ row.id)
      (newHash : ∀ other ∈ rows, other.tokenHash ≠ row.tokenHash) :
      Writes rows (rows ++ [row])
  | revoked (condition : RefreshToken → Prop) [DecidablePred condition]
      {change : RefreshToken → RefreshToken} (revokes : Revokes change) :
      Writes rows (updateWhere condition change rows)

section Tables

variable {rows after : List RefreshToken}
  {condition : RefreshToken → Prop} [DecidablePred condition]
  {change : RefreshToken → RefreshToken}

/-- Rows that an update leaves unrevoked were not selected by it. -/
theorem unrevoked_updateWhere (revokes : Revokes change)
    {row : RefreshToken} (member : row ∈ updateWhere condition change rows)
    (unrevoked : row.revokedAt = none) : row ∈ rows ∧ ¬ condition row := by
  rcases mem_updateWhere.mp member with ⟨old, oldMember, rfl⟩
  by_cases selected : condition old
  · rw [if_pos selected] at unrevoked
    exact absurd unrevoked (revokes.closes old)
  · rw [if_neg selected]
    exact ⟨oldMember, selected⟩

/-- Every row has a later version in the table a turn leaves. -/
theorem Writes.later (writes : Writes rows after)
    {row : RefreshToken} (member : row ∈ rows) :
    ∃ later ∈ after, Later row later := by
  cases writes with
  | kept => exact ⟨row, member, .refl row⟩
  | appended new newId newHash =>
      exact ⟨row, List.mem_append_left _ member, .refl row⟩
  | revoked condition revokes =>
      refine ⟨_, mem_updateWhere.mpr ⟨row, member, rfl⟩, ?_⟩
      split_ifs
      · exact revokes.later row
      · exact .refl row

theorem Writes.uniqueId (writes : Writes rows after)
    (unique : UniqueKey (fun row : RefreshToken => row.id) rows) :
    UniqueKey (fun row : RefreshToken => row.id) after := by
  cases writes with
  | kept => exact unique
  | appended row newId newHash => exact unique.append newId
  | revoked condition revokes =>
      exact unique.updateWhere fun row => (revokes.later row).id

theorem Writes.uniqueHash (writes : Writes rows after)
    (unique : UniqueKey (fun row : RefreshToken => row.tokenHash) rows) :
    UniqueKey (fun row : RefreshToken => row.tokenHash) after := by
  cases writes with
  | kept => exact unique
  | appended row newId newHash => exact unique.append newHash
  | revoked condition revokes =>
      exact unique.updateWhere fun row => (revokes.later row).tokenHash

theorem Moves.writes {deps : SessionDeps} {now : Time}
    {state next : AuthState} {point target : ControlPoint}
    (moves : Moves deps now state point target next) :
    Writes state.refreshTokens next.refreshTokens := by
  cases moves with
  | inserted accepted =>
      rcases insertViolation_eq_none_iff.mp accepted with ⟨newId, newHash, -⟩
      exact .appended _ newId newHash
  | marked => exact .revoked _ (revokes_replace now _)
  | familyRevoked replaced => exact .revoked _ (revokes_revoke now)
  | logoutMarked => exact .revoked _ (revokes_replace now _)
  | userRevoked => exact .revoked _ (revokes_revoke now)
  | _ => exact .kept

end Tables

end ChatBackend.Auth.ControlPoints
