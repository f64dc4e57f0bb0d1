import ChatBackend.Auth.PresentedTokens
import ChatBackend.Effects.Faults

/-!
# A refresh that fails half-way

A rotation inserts the successor, marks the presented token as replaced and
signs an access token, without a transaction around the three.  If the
insertion fails, nothing has happened.  If the marking fails, the family has two
unrevoked tokens.  If the signature fails, the presented token is revoked, and
a retry is taken for a replay.
-/

namespace ChatBackend.Auth.FailedRefresh

open Effects
open Relational
open ChatBackend.Auth.TokenStore
open ChatBackend.Auth.TokenStore.PgRefreshTokenRepository
open ChatBackend.Auth.Sessions
open ChatBackend.Auth.SessionRefinement
open ChatBackend.Auth.TokenChains
open ChatBackend.Auth.PresentedTokens

/-- The calls of a rotation that can fail. -/
inductive Point where
  | insert
  | markRevoked
  | signAccess
deriving DecidableEq, Repr

/-- The operations of the port that fail at a point. -/
def Point.breaks : Point → AuthOp → Bool
  | .insert, .refreshTokenRepo (.insert _) => true
  | .markRevoked, .refreshTokenRepo (.markRevoked _ _) => true
  | .signAccess, .signAccess _ => true
  | _, _ => false

/-- `RefreshSession.execute`, when the calls at a point throw the error. -/
def failed (deps : SessionDeps) (point : Point) (error : Failure)
    (draws : SessionDraws) (rawToken : String)
    (sessionMeta : Option SessionMeta) (now : Time) (state : AuthState) :
    Except Failure Session × AuthState :=
  (RefreshSession.execute deps draws rawToken sessionMeta).run
    (failing (authAdapter deps.toAuthServices)
      (fun op => point.breaks op = true) error) now state

/--
The presented token is the one unrevoked token of its family, and a retry with
it succeeds as long as it has not expired.
-/
structure CostsNothing (deps : SessionDeps) (after : AuthState)
    (row : RefreshToken) (rawToken : String) : Prop where
  kept : ∃ other ∈ after.refreshTokens, other.familyId = row.familyId ∧
    other.id = row.id
  only : ∀ other ∈ after.refreshTokens, other.familyId = row.familyId →
    (other.revokedAt = none ↔ other.id = row.id)
  retry : ∀ (draws : SessionDraws) (sessionMeta : Option SessionMeta)
    (now : Time), NewDraws deps after draws → draws.now ≤ row.expiresAt →
      Succeeds deps after draws rawToken sessionMeta now

section Failures

variable {deps : SessionDeps} {state : AuthState} {row : RefreshToken}
  {draws : SessionDraws} {rawToken : String}
  {sessionMeta : Option SessionMeta} {now : Time} {point : Point}
  {error : Failure} (stored : Stored deps state)
  (member : row ∈ state.refreshTokens)
  (hash : row.tokenHash = deps.hashRefresh rawToken)
  (unrevoked : row.revokedAt = none) (active : draws.now ≤ row.expiresAt)

include stored member hash unrevoked active

/-- Up to the rotation nothing fails, and nothing is written. -/
theorem failed_eq :
    failed deps point error draws rawToken sessionMeta now state =
      (RefreshSession.rotateToken deps draws row sessionMeta).run
        (failing (authAdapter deps.toAuthServices)
          (fun op => point.breaks op = true) error) now state := by
  have sound : ¬ point.breaks (.refreshTokenRepo
      (.findByHash (deps.hashRefresh rawToken))) = true := by
    cases point <;> exact Bool.false_ne_true
  rw [failed, RefreshSession.execute, refreshTokenRepo.findByHash,
    Program.perform_bind,
    run_failing_of_sound _ sound (authAdapter_findByHash _),
    stored.lookup member hash, RefreshSession.lookedUp, unrevoked]
  dsimp only
  rw [if_neg (not_lt_of_ge active)]

theorem failed_insert :
    failed deps .insert error draws rawToken sessionMeta now state =
      (.error error, state) := by
  rw [failed_eq stored member hash unrevoked active,
    RefreshSession.rotateToken, refreshTokenRepo.insert, Program.perform_bind]
  exact run_failing_of_broken _ rfl

variable (new : NewDraws deps state draws)

include new

theorem failed_markRevoked :
    failed deps .markRevoked error draws rawToken sessionMeta now state =
      (.error error, { state with
        refreshTokens := state.refreshTokens ++
          [(RefreshSession.successor deps draws row
            sessionMeta).insertedAt now] }) := by
  rw [failed_eq stored member hash unrevoked active,
    RefreshSession.rotateToken, refreshTokenRepo.insert, Program.perform_bind,
    run_failing_of_sound _ Bool.false_ne_true
      (authAdapter_insert (stored.successor_accepted new member))]
  exact run_failing_of_broken _ rfl

theorem failed_signAccess :
    failed deps .signAccess error draws rawToken sessionMeta now state =
      (.error error, rotated deps state draws row sessionMeta now) := by
  have inserted : References
      (state.refreshTokens ++
        [(RefreshSession.successor deps draws row sessionMeta).insertedAt now])
      (some draws.id) :=
    references_some_iff.mpr ⟨_, List.mem_concat_self, rfl⟩
  rw [failed_eq stored member hash unrevoked active,
    RefreshSession.rotateToken, refreshTokenRepo.insert, Program.perform_bind,
    run_failing_of_sound _ Bool.false_ne_true
      (authAdapter_insert (stored.successor_accepted new member)),
    refreshTokenRepo.markRevoked, Program.perform_bind,
    run_failing_of_sound _ Bool.false_ne_true
      (authAdapter_markRevoked inserted)]
  exact run_failing_of_broken _ rfl

/-! ## What a failure costs -/

/-- The successor of a token that was not marked is unrevoked beside it. -/
theorem not_costsNothing_markRevoked :
    ¬ CostsNothing deps
      (failed deps .markRevoked error draws rawToken sessionMeta now state).2
      row rawToken := by
  intro nothing
  have added : (RefreshSession.successor deps draws row
      sessionMeta).insertedAt now ∈
        (failed deps .markRevoked error draws rawToken sessionMeta now
          state).2.refreshTokens := by
    rw [failed_markRevoked stored member hash unrevoked active new]
    exact List.mem_concat_self
  exact new.id row member ((nothing.only _ added rfl).mp rfl).symm

/-- A rotation that could not sign has revoked the presented token. -/
theorem not_costsNothing_signAccess :
    ¬ CostsNothing deps
      (failed deps .signAccess error draws rawToken sessionMeta now state).2
      row rawToken := by
  intro nothing
  have replaced : replace now (some draws.id) row ∈
      (failed deps .signAccess error draws rawToken sessionMeta now
        state).2.refreshTokens := by
    rw [failed_signAccess stored member hash unrevoked active new]
    exact mem_rotated_replaced member
  exact Option.some_ne_none now ((nothing.only _ replaced rfl).mpr rfl)

/-- Outside of the window, the retry then is a replay. -/
theorem present_after_signAccess {retry : SessionDraws}
    {retryMeta : Option SessionMeta} {at_ : Time}
    (closed : ¬ InGrace deps retry now) :
    let after :=
      (failed deps .signAccess error draws rawToken sessionMeta now state).2
    present deps after retry rawToken retryMeta at_ =
      (.error (.authError "Invalid refresh token"),
        { after with
          refreshTokens :=
            familyRevoked row.familyId at_ after.refreshTokens }) := by
  have left := congrArg Prod.snd
    (@failed_signAccess deps state row draws rawToken sessionMeta now error
      stored member hash unrevoked active new)
  have kept : Stored deps (rotated deps state draws row sessionMeta now) :=
    stored_rotated stored new member
  have into : RotatedInto (replace now (some draws.id) row)
      ((RefreshSession.successor deps draws row sessionMeta).insertedAt now)
      now := ⟨rfl, rfl⟩
  have sameHash : (replace now (some draws.id) row).tokenHash =
      deps.hashRefresh rawToken := hash
  have refused := @present_of_spent deps _ _ _ retry retryMeta at_ now
    rawToken kept (mem_rotated_replaced member) sameHash into
    (mem_rotated_successor new member) (.inl closed)
  rw [left]
  exact refused

end Failures

section Reached

variable {deps : SessionDeps} {state : AuthState} {row : RefreshToken}
  {draws : SessionDraws} {rawToken : String}

theorem costsNothing_self (stored : Stored deps state)
    (linear : Linear tokenLinks state.refreshTokens)
    (member : row ∈ state.refreshTokens)
    (hash : row.tokenHash = deps.hashRefresh rawToken)
    (unrevoked : row.revokedAt = none) :
    CostsNothing deps state row rawToken where
  kept := ⟨row, member, rfl, rfl⟩
  only := fun _ otherMember sameFamily =>
    unrevoked_iff linear member unrevoked otherMember sameFamily
  retry := fun _ _ _ new active =>
    ⟨_, congrArg Prod.fst
      (present_of_active stored new member hash unrevoked active)⟩

/-- Of the calls of a rotation, the insertion alone may fail. -/
theorem costsNothing_iff
    (deps : SessionDeps) (users : List User) (emailTokens : List EmailToken)
    (calls : List (SessionCall × Time))
    (distinct : (openedFamilies calls).Nodup)
    (row : RefreshToken) (rawToken : String) (draws : SessionDraws)
    (sessionMeta : Option SessionMeta) (now : Time)
    (point : Point) (error : Failure) :
    let state :=
      (sessionMachine deps).reach (noSessions users emailTokens) calls
    row ∈ state.refreshTokens → row.tokenHash = deps.hashRefresh rawToken →
      row.revokedAt = none → draws.now ≤ row.expiresAt →
      NewDraws deps state draws →
      (failed deps point error draws rawToken sessionMeta now state).1 =
          .error error ∧
        (CostsNothing deps
          (failed deps point error draws rawToken sessionMeta now state).2
          row rawToken ↔ point = .insert) := by
  intro state member hash unrevoked active new
  have linear : Linear tokenLinks state.refreshTokens :=
    (linear_reach distinct).2.1
  have stored : Stored deps state := stored_reach users emailTokens calls
  cases point with
  | insert =>
      rw [failed_insert stored member hash unrevoked active]
      exact ⟨rfl, fun _ => rfl, fun _ =>
        costsNothing_self stored linear member hash unrevoked⟩
  | markRevoked =>
      refine ⟨?_, fun nothing => ?_, nofun⟩
      · rw [failed_markRevoked stored member hash unrevoked active new]
      · exact absurd nothing (not_costsNothing_markRevoked stored member hash
          unrevoked active new)
  | signAccess =>
      refine ⟨?_, fun nothing => ?_, nofun⟩
      · rw [failed_signAccess stored member hash unrevoked active new]
      · exact absurd nothing (not_costsNothing_signAccess stored member hash
          unrevoked active new)

/-- A login, after which a refresh cannot sign, with no window. -/
theorem unsigned_refresh_revokes :
    let login : List (SessionCall × Time) :=
      [(.createSession (sampleDraws 0 "0") "user-1" none, 0)]
    let state :=
      (sessionMachine (sampleDeps 0)).reach (noSessions [sampleUser] []) login
    let after := (failed (sampleDeps 0) .signAccess .typeError
      (sampleDraws 1 "1") "raw-0" none 1 state).2
    let retried :=
      present (sampleDeps 0) after (sampleDraws 2 "2") "raw-0" none 2
    sampleToken ∈ state.refreshTokens ∧
      NewDraws (sampleDeps 0) state (sampleDraws 1 "1") ∧
      NewDraws (sampleDeps 0) after (sampleDraws 2 "2") ∧
      retried.1 = .error (.authError "Invalid refresh token") ∧
      (∀ row ∈ retried.2.refreshTokens, row.revokedAt ≠ none) ∧
      ¬ CostsNothing (sampleDeps 0) after sampleToken "raw-0" := by
  have refused : (present (sampleDeps 0)
      (failed (sampleDeps 0) .signAccess .typeError (sampleDraws 1 "1")
        "raw-0" none 1
        ((sessionMachine (sampleDeps 0)).reach (noSessions [sampleUser] [])
          [(.createSession (sampleDraws 0 "0") "user-1" none, 0)])).2
      (sampleDraws 2 "2") "raw-0" none 2).1 =
        .error (.authError "Invalid refresh token") := rfl
  refine ⟨by decide, ⟨by decide, by decide⟩, ⟨by decide, by decide⟩,
    refused, by decide, fun nothing => ?_⟩
  obtain ⟨session, succeeds⟩ := nothing.retry (sampleDraws 2 "2") none 2
    ⟨by decide, by decide⟩ (by decide)
  rw [refused] at succeeds
  cases succeeds

theorem costsNothing_iff_inserting :
    CostsNothing (sampleDeps 0)
      (failed (sampleDeps 0) .insert .typeError (sampleDraws 1 "1") "raw-0"
        none 1
        ((sessionMachine (sampleDeps 0)).reach (noSessions [sampleUser] [])
          [(.createSession (sampleDraws 0 "0") "user-1" none, 0)])).2
      sampleToken "raw-0" :=
  (costsNothing_iff (sampleDeps 0) [sampleUser] []
    [(.createSession (sampleDraws 0 "0") "user-1" none, 0)] (by decide)
    sampleToken "raw-0" (sampleDraws 1 "1") none 1 .insert .typeError
    (by decide) (by decide) rfl (by decide)
    ⟨by decide, by decide⟩).2.mpr rfl

end Reached

end ChatBackend.Auth.FailedRefresh
