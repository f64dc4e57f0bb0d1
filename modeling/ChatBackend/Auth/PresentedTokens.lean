import ChatBackend.Auth.TokenChains

/-!
# What becomes of a presented token

The calls of `RefreshSession` on a table in which ids, hashes and owners are as
the database has them, and with draws that are new to it.  A token is rotated if
it is unrevoked and not expired.  A token that was rotated has its replacement
rotated if the grace window is open and the replacement unrevoked and not yet
at its expiry; otherwise the family is revoked.
-/

namespace ChatBackend.Auth.PresentedTokens

open Effects
open Relational
open ChatBackend.Auth.TokenStore
open ChatBackend.Auth.TokenStore.PgRefreshTokenRepository
open ChatBackend.Auth.Sessions
open ChatBackend.Auth.SessionLedger
open ChatBackend.Auth.SessionRefinement
open ChatBackend.Auth.TokenChains

/-! ## Stored tokens -/

/-- What the database and `generateRefresh` make of every table of tokens. -/
structure Stored (deps : SessionDeps) (state : AuthState) : Prop where
  uniqueId : UniqueKey (fun row => row.id) state.refreshTokens
  uniqueHash : UniqueKey (fun row => row.tokenHash) state.refreshTokens
  owner : ∀ row ∈ state.refreshTokens, ∃ user ∈ state.users,
    user.id = row.userId
  hashed : ∀ row ∈ state.refreshTokens, ∃ raw,
    row.tokenHash = deps.hashRefresh raw

/-- The id and the hash of the token drawn are new to the table. -/
structure NewDraws (deps : SessionDeps) (state : AuthState)
    (draws : SessionDraws) : Prop where
  id : ∀ row ∈ state.refreshTokens, row.id ≠ draws.id
  hash : ∀ row ∈ state.refreshTokens,
    row.tokenHash ≠ deps.hashRefresh draws.raw

section Stored

variable {deps : SessionDeps} {state : AuthState} {row token : RefreshToken}
  {draws : SessionDraws} {sessionMeta : Option SessionMeta} {now : Time}
  {rawToken : String}

theorem Stored.lookup (stored : Stored deps state)
    (member : row ∈ state.refreshTokens)
    (hash : row.tokenHash = deps.hashRefresh rawToken) :
    first (fun row => row.tokenHash = deps.hashRefresh rawToken)
      state.refreshTokens = some row := by
  have found := stored.uniqueHash.first_eq_some member
  rw [hash] at found
  exact found

theorem Stored.findById (stored : Stored deps state)
    (member : row ∈ state.refreshTokens) :
    first (fun other => other.id = row.id) state.refreshTokens = some row :=
  stored.uniqueId.first_eq_some member

theorem Stored.successor_accepted (stored : Stored deps state)
    (new : NewDraws deps state draws)
    (member : token ∈ state.refreshTokens) :
    insertViolation state.users state.refreshTokens
      (RefreshSession.successor deps draws token sessionMeta) = none :=
  insertViolation_eq_none_iff.mpr
    ⟨new.id, new.hash, stored.owner token member,
      references_some_iff.mpr ⟨token, member, rfl⟩, references_none _⟩

/-- A change of rows that keeps what identifies and owns them. -/
theorem Stored.updateWhere {condition : RefreshToken → Prop}
    [DecidablePred condition] {change : RefreshToken → RefreshToken}
    (stored : Stored deps state)
    (keeps : ∀ row, (change row).id = row.id ∧
      (change row).tokenHash = row.tokenHash ∧
      (change row).userId = row.userId) :
    Stored deps { state with
      refreshTokens := updateWhere condition change state.refreshTokens }
    where
  uniqueId := UniqueKey.updateWhere stored.uniqueId fun row => (keeps row).1
  uniqueHash :=
    UniqueKey.updateWhere stored.uniqueHash fun row => (keeps row).2.1
  owner := forall_mem_updateWhere stored.owner fun row member _ => by
    rw [(keeps row).2.2]
    exact stored.owner row member
  hashed := forall_mem_updateWhere stored.hashed fun row member _ => by
    rw [(keeps row).2.1]
    exact stored.hashed row member

/-- An accepted row of a raw token is stored beside the others. -/
theorem Stored.concat {record : NewRefreshToken}
    (stored : Stored deps state)
    (accepted : insertViolation state.users state.refreshTokens record = none)
    (hashed : record.tokenHash = deps.hashRefresh draws.raw) :
    Stored deps { state with
      refreshTokens := state.refreshTokens ++ [record.insertedAt now] } := by
  obtain ⟨id, hash, owner, -, -⟩ := insertViolation_eq_none_iff.mp accepted
  refine ⟨Unclashing.append stored.uniqueId id,
    Unclashing.append stored.uniqueHash hash, ?_, ?_⟩
  · intro row member
    rcases List.mem_append.mp member with old | new
    · exact stored.owner row old
    · rw [List.mem_singleton.mp new]
      exact owner
  · intro row member
    rcases List.mem_append.mp member with old | new
    · exact stored.hashed row old
    · rw [List.mem_singleton.mp new]
      exact ⟨draws.raw, hashed⟩

theorem Stored.leaves {call : SessionCall} {after : AuthState}
    (stored : Stored deps state) (same : after.users = state.users)
    (leaves : Leaves deps state.users state.refreshTokens now call
      after.refreshTokens) : Stored deps after := by
  have moved (rows : List RefreshToken)
      (stored : Stored deps { state with refreshTokens := rows })
      (left : after.refreshTokens = rows) : Stored deps after := by
    subst left
    exact ⟨stored.uniqueId, stored.uniqueHash, same ▸ stored.owner,
      stored.hashed⟩
  generalize left : after.refreshTokens = rows at leaves
  refine moved rows ?_ left
  cases leaves with
  | same => exact stored
  | opened draws userId sessionMeta accepted => exact stored.concat accepted rfl
  | rotated draws rawToken sessionMeta current member unrevoked accepted =>
      exact Stored.updateWhere
        (@Stored.concat deps state draws now _ stored accepted rfl)
        fun row => ⟨rfl, rfl, rfl⟩
  | refused draws rawToken sessionMeta familyId =>
      exact stored.updateWhere fun row => ⟨rfl, rfl, rfl⟩
  | ended rawToken token member unrevoked =>
      exact stored.updateWhere fun row => ⟨rfl, rfl, rfl⟩
  | allEnded userId => exact stored.updateWhere fun row => ⟨rfl, rfl, rfl⟩

theorem Stored.step (stored : Stored deps state)
    (call : SessionCall × Time) :
    Stored deps ((sessionMachine deps).step state call).2 := by
  obtain ⟨same, leaves⟩ := leaves_step deps state call.1 call.2
  exact stored.leaves same leaves

/-- Every state that calls reach has stored tokens. -/
theorem stored_reach (users : List User) (emailTokens : List EmailToken)
    (calls : List (SessionCall × Time)) :
    Stored deps
      ((sessionMachine deps).reach (noSessions users emailTokens) calls) := by
  refine @Transition.run_invariant _ _
    (fun state call => ((sessionMachine deps).step state call).2)
    (Stored deps) (fun state call stored => stored.step call) _ ?_ calls
  exact ⟨unclashing_nil, unclashing_nil,
    fun _ none => absurd none List.not_mem_nil,
    fun _ none => absurd none List.not_mem_nil⟩

end Stored

/-! ## Presenting a token -/

/-- A call of `RefreshSession`, with its answer and what it leaves. -/
def present (deps : SessionDeps) (state : AuthState) (draws : SessionDraws)
    (rawToken : String) (sessionMeta : Option SessionMeta) (now : Time) :
    Except Failure (Option Session) × AuthState :=
  (sessionMachine deps).step state (.refresh draws rawToken sessionMeta, now)

/-- The call returns a token pair. -/
def Succeeds (deps : SessionDeps) (state : AuthState) (draws : SessionDraws)
    (rawToken : String) (sessionMeta : Option SessionMeta) (now : Time) :
    Prop :=
  ∃ session,
    (present deps state draws rawToken sessionMeta now).1 = .ok (some session)

/-- The token was rotated into the other one at the given time. -/
structure RotatedInto (token row : RefreshToken) (at_ : Time) : Prop where
  revoked : token.revokedAt = some at_
  replaced : token.replacedById = some row.id

/-- The grace window is open for a token that was revoked at the given time. -/
def InGrace (deps : SessionDeps) (draws : SessionDraws) (revokedAt : Time) :
    Prop :=
  0 < deps.graceWindowSec ∧
    draws.now - revokedAt ≤ deps.graceWindowSec * 1000

section Presented

variable {deps : SessionDeps} {state : AuthState} {row token : RefreshToken}
  {draws : SessionDraws} {sessionMeta : Option SessionMeta} {now at_ : Time}
  {rawToken : String} (stored : Stored deps state)

/-- The state after a token was rotated. -/
def rotated (deps : SessionDeps) (state : AuthState) (draws : SessionDraws)
    (token : RefreshToken) (sessionMeta : Option SessionMeta) (now : Time) :
    AuthState :=
  { state with
    refreshTokens :=
      rotatedRows deps draws token sessionMeta now state.refreshTokens }

theorem mem_rotated_of_ne {other : RefreshToken}
    (member : other ∈ state.refreshTokens) (differ : other.id ≠ row.id) :
    other ∈ (rotated deps state draws row sessionMeta now).refreshTokens :=
  mem_updateWhere.mpr
    ⟨other, List.mem_append_left _ member, (if_neg differ).symm⟩

theorem mem_rotated_replaced
    (member : row ∈ state.refreshTokens) :
    replace now (some draws.id) row ∈
      (rotated deps state draws row sessionMeta now).refreshTokens :=
  mem_updateWhere.mpr
    ⟨row, List.mem_append_left _ member, (if_pos rfl).symm⟩

theorem mem_rotated_successor
    (new : NewDraws deps state draws) (member : row ∈ state.refreshTokens) :
    (RefreshSession.successor deps draws row sessionMeta).insertedAt now ∈
      (rotated deps state draws row sessionMeta now).refreshTokens :=
  mem_updateWhere.mpr
    ⟨_, List.mem_append_right _ List.mem_cons_self,
      (if_neg fun same => new.id row member same.symm).symm⟩

include stored

/-- A rotation leaves stored tokens. -/
theorem stored_rotated (new : NewDraws deps state draws)
    (member : token ∈ state.refreshTokens) :
    Stored deps (rotated deps state draws token sessionMeta now) :=
  Stored.updateWhere
    (@Stored.concat deps state draws now _ stored
      (stored.successor_accepted new member) rfl)
    fun _ => ⟨rfl, rfl, rfl⟩

theorem present_eq (member : row ∈ state.refreshTokens)
    (hash : row.tokenHash = deps.hashRefresh rawToken) :
    present deps state draws rawToken sessionMeta now =
      (((RefreshSession.lookedUp deps draws sessionMeta (some row)).run
        (authAdapter deps.toAuthServices) now state).1.map some,
      ((RefreshSession.lookedUp deps draws sessionMeta (some row)).run
        (authAdapter deps.toAuthServices) now state).2) := by
  dsimp only [present, sessionMachine, SessionCall.program]
  rw [Program.run_map, run_execute, stored.lookup member hash]

theorem present_of_active (new : NewDraws deps state draws)
    (member : row ∈ state.refreshTokens)
    (hash : row.tokenHash = deps.hashRefresh rawToken)
    (unrevoked : row.revokedAt = none) (active : draws.now ≤ row.expiresAt) :
    present deps state draws rawToken sessionMeta now =
      (.ok (some (Ledger.session deps draws row.userId now)),
        rotated deps state draws row sessionMeta now) := by
  rw [present_eq stored member hash, RefreshSession.lookedUp, unrevoked]
  dsimp only
  rw [if_neg (not_lt_of_ge active),
    run_rotateToken (stored.successor_accepted new member)]
  rfl

theorem present_of_expired (member : row ∈ state.refreshTokens)
    (hash : row.tokenHash = deps.hashRefresh rawToken)
    (unrevoked : row.revokedAt = none) (expired : row.expiresAt < draws.now) :
    present deps state draws rawToken sessionMeta now =
      (.error (.authError "Refresh token expired"), state) := by
  rw [present_eq stored member hash, RefreshSession.lookedUp, unrevoked]
  dsimp only
  rw [if_pos expired]
  rfl

/-- Within the window a rotated token stands for its replacement. -/
theorem present_of_grace (new : NewDraws deps state draws)
    (member : token ∈ state.refreshTokens)
    (hash : token.tokenHash = deps.hashRefresh rawToken)
    (into : RotatedInto token row at_) (grace : InGrace deps draws at_)
    (replacement : row ∈ state.refreshTokens)
    (unrevoked : row.revokedAt = none) (active : draws.now < row.expiresAt) :
    present deps state draws rawToken sessionMeta now =
      (.ok (some (Ledger.session deps draws row.userId now)),
        rotated deps state draws row sessionMeta now) := by
  have window : 0 < deps.graceWindowSec ∧
      draws.now - at_ ≤ deps.graceWindowSec * 1000 := grace
  rw [present_eq stored member hash, RefreshSession.lookedUp, into.revoked]
  dsimp only [RefreshSession.replayed]
  rw [into.replaced]
  dsimp only
  rw [if_pos window, refreshTokenRepo.findById, Program.perform_bind,
    Program.run_call_ok _ (authAdapter_findById row.id),
    stored.findById replacement]
  dsimp only
  rw [if_pos ⟨unrevoked, active⟩,
    run_rotateToken (stored.successor_accepted new replacement)]
  rfl

/-- A rotated token whose replacement cannot stand in costs the family. -/
theorem present_of_spent
    (member : token ∈ state.refreshTokens)
    (hash : token.tokenHash = deps.hashRefresh rawToken)
    (into : RotatedInto token row at_)
    (replacement : row ∈ state.refreshTokens)
    (spent : ¬ InGrace deps draws at_ ∨ row.revokedAt ≠ none ∨
      row.expiresAt ≤ draws.now) :
    present deps state draws rawToken sessionMeta now =
      (.error (.authError "Invalid refresh token"),
        { state with
          refreshTokens :=
            familyRevoked token.familyId now state.refreshTokens }) := by
  have refused : ((RefreshSession.refuse token).run
      (authAdapter deps.toAuthServices) now state) =
        (.error (.authError "Invalid refresh token"),
          { state with
            refreshTokens :=
              familyRevoked token.familyId now state.refreshTokens }) := by
    unfold RefreshSession.refuse
    rw [into.replaced]
    rfl
  have inactive (grace : InGrace deps draws at_) :
      ¬ (row.revokedAt = none ∧ draws.now < row.expiresAt) := by
    rintro ⟨unrevoked, active⟩
    rcases spent with closed | revoked | expired
    · exact closed grace
    · exact revoked unrevoked
    · exact absurd active (not_lt_of_ge expired)
  rw [present_eq stored member hash, RefreshSession.lookedUp, into.revoked]
  dsimp only [RefreshSession.replayed]
  rw [into.replaced]
  dsimp only
  split
  case isTrue grace =>
    rw [refreshTokenRepo.findById, Program.perform_bind,
      Program.run_call_ok _ (authAdapter_findById row.id),
      stored.findById replacement]
    dsimp only
    rw [if_neg (inactive grace), refused]
    rfl
  case isFalse =>
    rw [refused]
    rfl

end Presented

section Sample

/-- The only token of the sample state. -/
def sampleToken : RefreshToken :=
  (rootToken (sampleDeps 30) (sampleDraws 0 "0") "user-1" none).insertedAt 0

theorem stored_sampleState : Stored (sampleDeps 30) (sampleState 30) where
  uniqueId := List.pairwise_singleton _ _
  uniqueHash := List.pairwise_singleton _ _
  owner := by decide
  hashed := fun row member =>
    ⟨"raw-0", by rw [List.mem_singleton.mp member]; rfl⟩

end Sample

end ChatBackend.Auth.PresentedTokens
