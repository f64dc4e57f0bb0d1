import ChatBackend.Auth.PresentedTokens

/-!
# Retries within the grace window

A token was rotated, and nothing else has happened to its family since.  It is
presented again and again while the window is open and no token has expired.
The first retry rotates the replacement and returns a pair.  The token still
names that replacement, which is now revoked, so the second retry revokes the
family.
-/

namespace ChatBackend.Auth.GraceWindow

open Relational
open Transition
open ChatBackend.Auth.TokenStore
open ChatBackend.Auth.TokenStore.PgRefreshTokenRepository
open ChatBackend.Auth.Sessions
open ChatBackend.Auth.SessionLedger
open ChatBackend.Auth.SessionRefinement
open ChatBackend.Auth.PresentedTokens

/-- One more call that presents the token, with what it draws. -/
structure Retry where
  draws : SessionDraws
  sessionMeta : Option SessionMeta
  now : Time
deriving DecidableEq, Repr

/-- Calls that present one raw token, one after another. -/
def retrying (deps : SessionDeps) (rawToken : String) :
    Machine AuthState Retry (Except Failure (Option Session)) where
  step state retry :=
    present deps state retry.draws rawToken retry.sessionMeta retry.now

/-- The token was rotated at the given time, and its replacement is unused. -/
structure JustRotated (deps : SessionDeps) (state : AuthState)
    (rawToken : String) (token row : RefreshToken) (at_ : Time) : Prop where
  stored : Stored deps state
  member : token ∈ state.refreshTokens
  hash : token.tokenHash = deps.hashRefresh rawToken
  into : RotatedInto token row at_
  replacement : row ∈ state.refreshTokens
  sameFamily : row.familyId = token.familyId
  unrevoked : row.revokedAt = none

/-- The retry comes within the window and before the replacement expires. -/
def Timely (deps : SessionDeps) (row : RefreshToken) (at_ : Time)
    (retry : Retry) : Prop :=
  at_ ≤ retry.draws.now ∧
    retry.draws.now ≤ at_ + deps.graceWindowSec * 1000 ∧
    retry.draws.now < row.expiresAt

/-- The draws of every retry are new to the table it finds. -/
def NewAlong (deps : SessionDeps) (rawToken : String) (state : AuthState)
    (retries : List Retry) : Prop :=
  Along (fun state retry => ((retrying deps rawToken).step state retry).2)
    (fun state retry => NewDraws deps state retry.draws) state retries

/--
Every retry returns a pair, some token of the family is unrevoked, and the pair
returned last can be refreshed while no token of the family has expired.
-/
structure KeepsSession (deps : SessionDeps) (state : AuthState)
    (rawToken familyId : String) (retries : List Retry) : Prop where
  answered : ∀ answer ∈ (retrying deps rawToken).answers state retries,
    ∃ session, answer = .ok (some session)
  alive : ∃ row ∈ ((retrying deps rawToken).reach state retries).refreshTokens,
    row.familyId = familyId ∧ row.revokedAt = none
  refreshable : ∀ session,
    ((retrying deps rawToken).answers state retries).getLast? =
        some (.ok (some session)) →
      ∀ next : Retry,
        NewDraws deps ((retrying deps rawToken).reach state retries)
            next.draws →
          (∀ row ∈ ((retrying deps rawToken).reach state
              retries).refreshTokens,
            row.familyId = familyId → next.draws.now ≤ row.expiresAt) →
          Succeeds deps ((retrying deps rawToken).reach state retries)
            next.draws session.refreshToken next.sessionMeta next.now

section Retries

variable {deps : SessionDeps} {state : AuthState} {rawToken : String}
  {token row : RefreshToken} {at_ : Time} {retry : Retry}

/-- A rotation leaves its token just rotated. -/
theorem justRotated_rotated {draws : SessionDraws}
    {sessionMeta : Option SessionMeta} {now : Time}
    (stored : Stored deps state) (new : NewDraws deps state draws)
    (member : row ∈ state.refreshTokens)
    (hash : row.tokenHash = deps.hashRefresh rawToken) :
    JustRotated deps (rotated deps state draws row sessionMeta now) rawToken
      (replace now (some draws.id) row)
      ((RefreshSession.successor deps draws row sessionMeta).insertedAt now)
      now where
  stored := stored_rotated stored new member
  member := mem_rotated_replaced member
  hash := hash
  into := ⟨rfl, rfl⟩
  replacement := mem_rotated_successor new member
  sameFamily := rfl
  unrevoked := rfl

/-! ## The first retry and the second -/

theorem step_first (rotated_ : JustRotated deps state rawToken token row at_)
    (open_ : 0 < deps.graceWindowSec) (timely : Timely deps row at_ retry)
    (new : NewDraws deps state retry.draws) :
    (retrying deps rawToken).step state retry =
      (.ok (some (Ledger.session deps retry.draws row.userId retry.now)),
        rotated deps state retry.draws row retry.sessionMeta retry.now) := by
  have grace : InGrace deps retry.draws at_ :=
    ⟨open_, Int.sub_left_le_of_le_add timely.2.1⟩
  exact present_of_grace rotated_.stored new rotated_.member rotated_.hash
    rotated_.into grace rotated_.replacement rotated_.unrevoked timely.2.2

/-- The token still names the replacement that the first retry has rotated. -/
theorem step_second {second : Retry}
    (rotated_ : JustRotated deps state rawToken token row at_)
    (new : NewDraws deps state retry.draws) :
    let between :=
      rotated deps state retry.draws row retry.sessionMeta retry.now
    (retrying deps rawToken).step between second =
      (.error (.authError "Invalid refresh token"),
        { between with
          refreshTokens :=
            familyRevoked token.familyId second.now
              between.refreshTokens }) := by
  have differ : token.id ≠ row.id := by
    intro same
    have equal := rotated_.stored.uniqueId.eq_of_key rotated_.member
      rotated_.replacement same
    have revoked := rotated_.into.revoked
    rw [equal, rotated_.unrevoked] at revoked
    cases revoked
  have into : RotatedInto token
      (replace retry.now (some retry.draws.id) row) at_ :=
    ⟨rotated_.into.revoked, rotated_.into.replaced⟩
  exact present_of_spent
    (stored_rotated rotated_.stored new rotated_.replacement)
    (mem_rotated_of_ne rotated_.member differ) rotated_.hash into
    (mem_rotated_replaced rotated_.replacement)
    (.inr (.inl (Option.some_ne_none retry.now)))

/-! ## How many retries keep the session -/

theorem keepsSession_nil
    (rotated_ : JustRotated deps state rawToken token row at_) :
    KeepsSession deps state rawToken token.familyId [] where
  answered := fun _ none => absurd none List.not_mem_nil
  alive :=
    ⟨row, rotated_.replacement, rotated_.sameFamily, rotated_.unrevoked⟩
  refreshable := by
    intro session last
    cases last

theorem keepsSession_singleton
    (rotated_ : JustRotated deps state rawToken token row at_)
    (open_ : 0 < deps.graceWindowSec) (timely : Timely deps row at_ retry)
    (new : NewDraws deps state retry.draws) :
    KeepsSession deps state rawToken token.familyId [retry] := by
  have first := step_first rotated_ open_ timely new
  have answers : (retrying deps rawToken).answers state [retry] =
      [.ok (some (Ledger.session deps retry.draws row.userId retry.now))] := by
    rw [Machine.answers, first]
    rfl
  have reached : (retrying deps rawToken).reach state [retry] =
      rotated deps state retry.draws row retry.sessionMeta retry.now :=
    congrArg Prod.snd first
  have successor := @mem_rotated_successor deps state row retry.draws
    retry.sessionMeta retry.now new rotated_.replacement
  refine ⟨?_, ?_, ?_⟩
  · rw [answers]
    intro answer member
    exact ⟨_, List.mem_singleton.mp member⟩
  · rw [reached]
    exact ⟨_, successor, rotated_.sameFamily, rfl⟩
  · rw [answers, reached]
    rintro session ⟨⟩ next newNext unexpired
    exact ⟨_, congrArg Prod.fst
      (present_of_active
        (stored_rotated rotated_.stored new rotated_.replacement) newNext
        successor rfl rfl (unexpired _ successor rotated_.sameFamily))⟩

/-- Exactly one retry is tolerated. -/
theorem keepsSession_iff
    (deps : SessionDeps) (state : AuthState) (rawToken : String)
    (token row : RefreshToken) (at_ : Time) (retries : List Retry)
    (open_ : 0 < deps.graceWindowSec)
    (rotated_ : JustRotated deps state rawToken token row at_)
    (timely : ∀ retry ∈ retries, Timely deps row at_ retry)
    (new : NewAlong deps rawToken state retries) :
    KeepsSession deps state rawToken token.familyId retries ↔
      retries.length ≤ 1 := by
  cases retries with
  | nil => exact ⟨fun _ => Nat.zero_le 1, fun _ => keepsSession_nil rotated_⟩
  | cons retry rest =>
      have first := step_first rotated_ open_
        (timely retry List.mem_cons_self) new.1
      cases rest with
      | nil =>
          exact ⟨fun _ => Nat.le_refl 1, fun _ =>
            keepsSession_singleton rotated_ open_
              (timely retry List.mem_cons_self) new.1⟩
      | cons second rest =>
          refine ⟨fun keeps => ?_, fun short => ?_⟩
          · have refused := @step_second deps state rawToken token row at_
              retry second rotated_ new.1
            obtain ⟨session, answered⟩ := keeps.answered
              (.error (.authError "Invalid refresh token")) (by
                rw [Machine.answers, Machine.answers, first]
                dsimp only
                rw [refused]
                exact List.mem_cons_of_mem _ List.mem_cons_self)
            cases answered
          · rw [List.length_cons, List.length_cons] at short
            omega

end Retries

section Sample

/-- The state after the sample token was rotated at time 1. -/
abbrev sampleRotated : AuthState :=
  rotated (sampleDeps 30) (sampleState 30) (sampleDraws 1 "1") sampleToken
    none 1

abbrev sampleReplacement : RefreshToken :=
  (RefreshSession.successor (sampleDeps 30) (sampleDraws 1 "1") sampleToken
    none).insertedAt 1

theorem justRotated_sample :
    JustRotated (sampleDeps 30) sampleRotated "raw-0"
      (replace 1 (some "token-1") sampleToken) sampleReplacement 1 :=
  justRotated_rotated stored_sampleState
    ⟨by decide, by decide⟩ List.mem_cons_self (by decide)

def sampleRetry (now : Time) (number : String) : Retry where
  draws := sampleDraws now number
  sessionMeta := none
  now := now

/-- Two retries one and two milliseconds after a rotation, in a window of 30 s. -/
theorem second_retry_revokes :
    JustRotated (sampleDeps 30) sampleRotated "raw-0"
        (replace 1 (some "token-1") sampleToken) sampleReplacement 1 ∧
      (∀ retry ∈ [sampleRetry 2 "2", sampleRetry 3 "3"],
        Timely (sampleDeps 30) sampleReplacement 1 retry) ∧
      NewAlong (sampleDeps 30) "raw-0" sampleRotated
        [sampleRetry 2 "2", sampleRetry 3 "3"] ∧
      ¬ KeepsSession (sampleDeps 30) sampleRotated "raw-0" "family-0"
        [sampleRetry 2 "2", sampleRetry 3 "3"] := by
  refine ⟨justRotated_sample, by unfold Timely; decide,
    ⟨⟨by decide, by decide⟩, ⟨by decide, by decide⟩, trivial⟩, ?_⟩
  intro keeps
  have revoked : ∀ row ∈ ((retrying (sampleDeps 30) "raw-0").reach
      sampleRotated [sampleRetry 2 "2", sampleRetry 3 "3"]).refreshTokens,
      row.revokedAt ≠ none := by decide
  obtain ⟨row, member, -, unrevoked⟩ := keeps.alive
  exact revoked row member unrevoked

theorem keepsSession_iff_once :
    KeepsSession (sampleDeps 30) sampleRotated "raw-0" "family-0"
      [sampleRetry 2 "2"] :=
  (keepsSession_iff (sampleDeps 30) sampleRotated "raw-0"
    (replace 1 (some "token-1") sampleToken) sampleReplacement 1
    [sampleRetry 2 "2"] (by decide) justRotated_sample
    (by unfold Timely; decide)
    ⟨⟨by decide, by decide⟩, trivial⟩).mpr (by decide)

end Sample

end ChatBackend.Auth.GraceWindow
