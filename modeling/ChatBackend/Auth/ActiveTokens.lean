import ChatBackend.Auth.PresentedTokens

/-!
# Which tokens are active

Three conditions say that an unrevoked token is active: the check of a token
that is presented, the check of a replacement within the grace window, and the
filter of `listActiveByUser`.  The first lets a token pass at the instant of its
expiry, the other two do not.
-/

namespace ChatBackend.Auth.ActiveTokens

open Relational
open ChatBackend.Auth.TokenStore
open ChatBackend.Auth.Sessions
open ChatBackend.Auth.SessionLedger
open ChatBackend.Auth.SessionRefinement
open ChatBackend.Auth.PresentedTokens

/-- The unrevoked and unexpired tokens of a user, the latest first. -/
def PgRefreshTokenRepository.listActiveByUser (userId : String) (now : Time)
    (rows : List RefreshToken) : List RefreshToken :=
  (rows.filter fun row =>
    decide (row.userId = userId ∧ row.revokedAt = none ∧
      now < row.expiresAt)).mergeSort
    fun row other => decide (other.createdAt ≤ row.createdAt)

theorem mem_listActiveByUser {userId : String} {now : Time}
    {rows : List RefreshToken} {row : RefreshToken} :
    row ∈ PgRefreshTokenRepository.listActiveByUser userId now rows ↔
      row ∈ rows ∧ row.userId = userId ∧ row.revokedAt = none ∧
        now < row.expiresAt := by
  unfold PgRefreshTokenRepository.listActiveByUser
  rw [List.mem_mergeSort, List.mem_filter, decide_eq_true_iff]

/--
At a time of both clocks, presenting the raw token of an unrevoked row succeeds
exactly when the row is listed as active, and presenting that of a parent
rotated into it within the window succeeds exactly when presenting its own does.
-/
def OneNotion (deps : SessionDeps) (state : AuthState) (draws : SessionDraws)
    (sessionMeta : Option SessionMeta) : Prop :=
  ∀ row ∈ state.refreshTokens, row.revokedAt = none →
    ∀ raw, row.tokenHash = deps.hashRefresh raw →
      (Succeeds deps state draws raw sessionMeta draws.now ↔
        row ∈ PgRefreshTokenRepository.listActiveByUser row.userId draws.now
          state.refreshTokens) ∧
      ∀ parent ∈ state.refreshTokens, ∀ at_, RotatedInto parent row at_ →
        InGrace deps draws at_ →
        ∀ parentRaw, parent.tokenHash = deps.hashRefresh parentRaw →
          (Succeeds deps state draws parentRaw sessionMeta draws.now ↔
            Succeeds deps state draws raw sessionMeta draws.now)

section Conditions

variable {deps : SessionDeps} {state : AuthState} {draws : SessionDraws}
  {sessionMeta : Option SessionMeta} {row parent : RefreshToken}
  {raw : String} {at_ : Time} (stored : Stored deps state)
  (new : NewDraws deps state draws)

include stored new

/-- Presented itself, a token is active up to the instant of its expiry. -/
theorem succeeds_iff (member : row ∈ state.refreshTokens)
    (unrevoked : row.revokedAt = none)
    (hash : row.tokenHash = deps.hashRefresh raw) :
    Succeeds deps state draws raw sessionMeta draws.now ↔
      draws.now ≤ row.expiresAt := by
  unfold Succeeds
  constructor
  · rintro ⟨session, succeeded⟩
    refine le_of_not_gt fun expired => ?_
    rw [present_of_expired stored member hash unrevoked expired] at succeeded
    cases succeeded
  · intro active
    exact ⟨_, congrArg Prod.fst
      (present_of_active stored new member hash unrevoked active)⟩

/-- As a replacement, a token is active before the instant of its expiry. -/
theorem succeeds_parent_iff (member : row ∈ state.refreshTokens)
    (unrevoked : row.revokedAt = none)
    (parentMember : parent ∈ state.refreshTokens)
    (into : RotatedInto parent row at_) (grace : InGrace deps draws at_)
    (hash : parent.tokenHash = deps.hashRefresh raw) :
    Succeeds deps state draws raw sessionMeta draws.now ↔
      draws.now < row.expiresAt := by
  unfold Succeeds
  constructor
  · rintro ⟨session, succeeded⟩
    refine lt_of_not_ge fun expired => ?_
    rw [present_of_spent stored parentMember hash into member
      (.inr (.inr expired))]
      at succeeded
    cases succeeded
  · intro active
    exact ⟨_, congrArg Prod.fst
      (present_of_grace stored new parentMember hash into grace member
        unrevoked active)⟩

end Conditions

/-- The conditions agree exactly when no unrevoked token expires right now. -/
theorem oneNotion_iff
    (deps : SessionDeps) (state : AuthState) (draws : SessionDraws)
    (sessionMeta : Option SessionMeta) (stored : Stored deps state)
    (new : NewDraws deps state draws) :
    OneNotion deps state draws sessionMeta ↔
      ∀ row ∈ state.refreshTokens, row.revokedAt = none →
        row.expiresAt ≠ draws.now := by
  constructor
  · intro one row member unrevoked expires
    obtain ⟨raw, hash⟩ := stored.hashed row member
    have agree := (one row member unrevoked raw hash).1
    rw [succeeds_iff stored new member unrevoked hash, mem_listActiveByUser]
      at agree
    have listed := agree.mp (le_of_eq expires.symm)
    exact absurd expires.symm (ne_of_lt listed.2.2.2)
  · intro apart row member unrevoked raw hash
    have strict : draws.now ≤ row.expiresAt ↔ draws.now < row.expiresAt :=
      ⟨fun active => lt_of_le_of_ne active
        fun same => apart row member unrevoked same.symm, le_of_lt⟩
    constructor
    · rw [succeeds_iff stored new member unrevoked hash, mem_listActiveByUser,
        strict]
      exact ⟨fun active => ⟨member, rfl, unrevoked, active⟩,
        fun listed => listed.2.2.2⟩
    · intro parent parentMember at_ into grace parentRaw parentHash
      rw [succeeds_parent_iff stored new member unrevoked parentMember into
        grace parentHash, succeeds_iff stored new member unrevoked hash, strict]

section Sample

/-- Draws at the instant at which the sample token expires. -/
def atExpiry : SessionDraws :=
  { sampleDraws 600000 "1" with now := 600000 }

/-- The sample token is refreshed when it is no longer listed. -/
theorem expiring_token_refreshed :
    ¬ OneNotion (sampleDeps 30) (sampleState 30) atExpiry none := by
  intro one
  have listed := (one _ List.mem_cons_self rfl "raw-0" (by decide)).1.mp
    ⟨_, rfl⟩
  rw [mem_listActiveByUser] at listed
  exact absurd listed.2.2.2 (by decide)

theorem oneNotion_iff_early :
    OneNotion (sampleDeps 30) (sampleState 30) (sampleDraws 1 "1") none :=
  (oneNotion_iff (sampleDeps 30) (sampleState 30) (sampleDraws 1 "1") none
    stored_sampleState ⟨by decide, by decide⟩).mpr (by decide)

end Sample

end ChatBackend.Auth.ActiveTokens
