import ChatBackend.Auth.SessionRefinement
import ChatBackend.Relational.Chains

/-!
# Token families are chains

Whatever the grace window, the refresh tokens of a family are chained by
`parent_id` and `replaced_by_id`, and only the last one can be unrevoked.  A
rotation hangs a row on an unrevoked one, which is the last of its family, be it
the token that was presented or, within the grace window, its replacement.

The one assumption is that the ids drawn for families are distinct.  Ids and
hashes of rows may clash: the database then rejects the insertion.
-/

namespace ChatBackend.Auth.TokenChains

open Effects
open Relational
open ChatBackend.Auth.TokenStore
open ChatBackend.Auth.TokenStore.PgRefreshTokenRepository
open ChatBackend.Auth.Sessions
open ChatBackend.Auth.SessionRefinement

/-! ## What a call does to the table -/

/-- The tables that a call can leave. -/
inductive Leaves (deps : SessionDeps) (users : List User)
    (rows : List RefreshToken) (now : Time) :
    SessionCall → List RefreshToken → Prop where
  | same (call : SessionCall) : Leaves deps users rows now call rows
  | opened (draws : SessionDraws) (userId : String)
      (sessionMeta : Option SessionMeta)
      (accepted : insertViolation users rows
        (rootToken deps draws userId sessionMeta) = none) :
      Leaves deps users rows now (.createSession draws userId sessionMeta)
        (rows ++ [(rootToken deps draws userId sessionMeta).insertedAt now])
  | rotated (draws : SessionDraws) (rawToken : String)
      (sessionMeta : Option SessionMeta) (current : RefreshToken)
      (member : current ∈ rows) (unrevoked : current.revokedAt = none)
      (accepted : insertViolation users rows
        (RefreshSession.successor deps draws current sessionMeta) = none) :
      Leaves deps users rows now (.refresh draws rawToken sessionMeta)
        (rotatedRows deps draws current sessionMeta now rows)
  | refused (draws : SessionDraws) (rawToken : String)
      (sessionMeta : Option SessionMeta) (familyId : String) :
      Leaves deps users rows now (.refresh draws rawToken sessionMeta)
        (familyRevoked familyId now rows)
  | ended (rawToken : String) (token : RefreshToken) (member : token ∈ rows)
      (unrevoked : token.revokedAt = none) :
      Leaves deps users rows now (.revoke rawToken)
        (updateWhere (fun row => row.id = token.id) (replace now none) rows)
  | allEnded (userId : String) :
      Leaves deps users rows now (.revokeAllForUser userId)
        (updateWhere (fun row => row.userId = userId ∧ row.revokedAt = none)
          (revoke now) rows)

section Steps

variable {deps : SessionDeps} {now : Time} {state : AuthState}
  {draws : SessionDraws} {sessionMeta : Option SessionMeta}

/-- The tables a rotation leaves, accepted or not. -/
theorem leaves_rotateToken {rawToken : String} {current : RefreshToken}
    (member : current ∈ state.refreshTokens)
    (unrevoked : current.revokedAt = none) :
    let after := ((RefreshSession.rotateToken deps draws current
      sessionMeta).run (authAdapter deps.toAuthServices) now state).2
    after.users = state.users ∧
      Leaves deps state.users state.refreshTokens now
        (.refresh draws rawToken sessionMeta) after.refreshTokens := by
  cases accepted : insertViolation state.users state.refreshTokens
      (RefreshSession.successor deps draws current sessionMeta) with
  | none =>
      rw [run_rotateToken accepted]
      exact ⟨rfl, .rotated draws rawToken sessionMeta current member unrevoked
        accepted⟩
  | some cause =>
      rw [RefreshSession.rotateToken, refreshTokenRepo.insert,
        Program.perform_bind,
        Program.run_call_error _ (authAdapter_insert_refused accepted)]
      exact ⟨rfl, .same _⟩

theorem leaves_refuse {rawToken : String} (current : RefreshToken) :
    let after := ((RefreshSession.refuse current).run
      (authAdapter deps.toAuthServices) now state).2
    after.users = state.users ∧
      Leaves deps state.users state.refreshTokens now
        (.refresh draws rawToken sessionMeta) after.refreshTokens := by
  unfold RefreshSession.refuse
  cases current.replacedById with
  | none => exact ⟨rfl, .same _⟩
  | some id => exact ⟨rfl, .refused draws rawToken sessionMeta current.familyId⟩

theorem leaves_replayed {rawToken : String} {current : RefreshToken}
    {revokedAt : Time} :
    let after := ((RefreshSession.replayed deps draws current revokedAt
      sessionMeta).run (authAdapter deps.toAuthServices) now state).2
    after.users = state.users ∧
      Leaves deps state.users state.refreshTokens now
        (.refresh draws rawToken sessionMeta) after.refreshTokens := by
  unfold RefreshSession.replayed
  split
  · exact leaves_refuse current
  · rename_i replacedById replaced
    split
    · rw [refreshTokenRepo.findById, Program.perform_bind,
        Program.run_call_ok _ (authAdapter_findById replacedById)]
      cases found : first (fun row => row.id = replacedById)
          state.refreshTokens with
      | none => exact leaves_refuse current
      | some replacement =>
          dsimp only
          split
          · rename_i active
            exact leaves_rotateToken (mem_of_first found) active.1
          · exact leaves_refuse current
    · exact leaves_refuse current

theorem leaves_lookedUp {rawToken : String}
    {looked : Option RefreshToken}
    (member : ∀ current ∈ looked, current ∈ state.refreshTokens) :
    let after := ((RefreshSession.lookedUp deps draws sessionMeta looked).run
      (authAdapter deps.toAuthServices) now state).2
    after.users = state.users ∧
      Leaves deps state.users state.refreshTokens now
        (.refresh draws rawToken sessionMeta) after.refreshTokens := by
  cases looked with
  | none => exact ⟨rfl, .same _⟩
  | some current =>
      unfold RefreshSession.lookedUp
      dsimp only
      split
      · exact leaves_replayed
      · rename_i unrevoked
        split
        · exact ⟨rfl, .same _⟩
        · exact leaves_rotateToken (member current rfl) unrevoked

/-- What one call leaves, whether it returns or throws. -/
theorem leaves_step (deps : SessionDeps) (state : AuthState)
    (call : SessionCall) (now : Time) :
    let after := ((sessionMachine deps).step state (call, now)).2
    after.users = state.users ∧
      Leaves deps state.users state.refreshTokens now call
        after.refreshTokens := by
  cases call with
  | createSession draws userId sessionMeta =>
      dsimp only [sessionMachine, SessionCall.program]
      rw [Program.run_map]
      dsimp only
      cases accepted : insertViolation state.users state.refreshTokens
          (rootToken deps draws userId sessionMeta) with
      | none =>
          rw [run_createSession accepted]
          exact ⟨rfl, .opened draws userId sessionMeta accepted⟩
      | some cause =>
          rw [createSession, refreshTokenRepo.insert, Program.perform_bind,
            Program.run_call_error _ (authAdapter_insert_refused accepted)]
          exact ⟨rfl, .same _⟩
  | refresh draws rawToken sessionMeta =>
      dsimp only [sessionMachine, SessionCall.program]
      rw [Program.run_map]
      dsimp only
      rw [run_execute]
      exact leaves_lookedUp fun current found => mem_of_first found
  | revoke rawToken =>
      dsimp only [sessionMachine, SessionCall.program]
      rw [Program.run_map]
      dsimp only
      rw [run_revoke]
      cases found : first
          (fun row => row.tokenHash = deps.hashRefresh rawToken)
          state.refreshTokens with
      | none => exact ⟨rfl, .same _⟩
      | some token =>
          dsimp only
          by_cases unrevoked : token.revokedAt = none
          · rw [if_pos unrevoked]
            exact ⟨rfl, .ended rawToken token (mem_of_first found) unrevoked⟩
          · rw [if_neg unrevoked]
            exact ⟨rfl, .same _⟩
  | revokeAllForUser userId => exact ⟨rfl, .allEnded userId⟩

end Steps

/-! ## Chains of tokens -/

/-- A token that was rotated is revoked, and its successor has its user. -/
def tokenLinks : Links RefreshToken String String where
  key row := row.id
  group row := row.familyId
  parent row := row.parentId
  next row := row.replacedById
  joins row other := row.revokedAt ≠ none ∧ row.userId = other.userId

section Linearity

variable {deps : SessionDeps} {users : List User} {rows after : List RefreshToken}
  {now : Time} {call : SessionCall}

/-- Revocations leave the chains. -/
theorem linear_revoke {condition : RefreshToken → Prop}
    [DecidablePred condition] (linear : Linear tokenLinks rows) :
    Linear tokenLinks (updateWhere condition (revoke now) rows) := by
  have changed (row : RefreshToken) :
      let kept := if condition row then revoke now row else row
      kept.id = row.id ∧ kept.familyId = row.familyId ∧
        kept.parentId = row.parentId ∧ kept.replacedById = row.replacedById ∧
        kept.userId = row.userId ∧
        (row.revokedAt ≠ none → kept.revokedAt ≠ none) := by
    dsimp only
    split
    · exact ⟨rfl, rfl, rfl, rfl, rfl, fun _ => Option.some_ne_none now⟩
    · exact ⟨rfl, rfl, rfl, rfl, rfl, id⟩
  refine linear.map ⟨?_, ?_, ?_⟩ ?_ ?_
  · exact fun row _ => (changed row).1
  · exact fun row _ => (changed row).2.1
  · exact fun row _ => (changed row).2.2.1
  · exact fun row _ => (changed row).2.2.2.1
  · rintro row - other - ⟨revoked, owner⟩
    refine ⟨(changed row).2.2.2.2.2 revoked, ?_⟩
    exact (changed row).2.2.2.2.1.trans
      (owner.trans (changed other).2.2.2.2.1.symm)

/-- An unrevoked token is the last of its family. -/
theorem replacedById_of_unrevoked (linear : Linear tokenLinks rows)
    {row : RefreshToken} (member : row ∈ rows)
    (unrevoked : row.revokedAt = none) : row.replacedById = none :=
  linear.next_eq_none member fun _ joined => joined.1 unrevoked

/-- A family has one unrevoked token at most. -/
theorem unrevoked_iff (linear : Linear tokenLinks rows)
    {row other : RefreshToken} (member : row ∈ rows)
    (unrevoked : row.revokedAt = none) (otherMember : other ∈ rows)
    (sameFamily : other.familyId = row.familyId) :
    other.revokedAt = none ↔ other.id = row.id := by
  constructor
  · intro otherUnrevoked
    have same : other = row := linear.eq_of_next_eq_none member otherMember
      sameFamily (replacedById_of_unrevoked linear member unrevoked)
      (replacedById_of_unrevoked linear otherMember otherUnrevoked)
    rw [same]
  · intro sameId
    rw [linear.unique.eq_of_key otherMember member sameId, unrevoked]

/-- To end an unrevoked token is to revoke it. -/
theorem linear_end (linear : Linear tokenLinks rows) {token : RefreshToken}
    (member : token ∈ rows) (unrevoked : token.revokedAt = none) :
    Linear tokenLinks
      (updateWhere (fun row => row.id = token.id) (replace now none) rows) := by
  have same : updateWhere (fun row => row.id = token.id) (replace now none)
      rows = updateWhere (fun row => row.id = token.id) (revoke now) rows := by
    refine List.map_congr_left fun row there => ?_
    by_cases itself : row.id = token.id
    · obtain rfl : row = token :=
        linear.unique.eq_of_key there member itself
      rw [if_pos rfl, if_pos rfl, replace, revoke,
        replacedById_of_unrevoked linear member unrevoked]
    · rw [if_neg itself, if_neg itself]
  rw [same]
  exact linear_revoke linear

section Rotations

variable {draws : SessionDraws} {sessionMeta : Option SessionMeta}
  {current : RefreshToken} (linear : Linear tokenLinks rows)
  (member : current ∈ rows) (unrevoked : current.revokedAt = none)
  (accepted : insertViolation users rows
    (RefreshSession.successor deps draws current sessionMeta) = none)

include linear member unrevoked accepted

/-- A rotation hangs the successor on the token. -/
theorem extends_rotate :
    Extends tokenLinks rows current (replace now (some draws.id))
      ((RefreshSession.successor deps draws current sessionMeta).insertedAt
        now) where
  member := member
  last := replacedById_of_unrevoked linear member unrevoked
  key := rfl
  group := rfl
  parent := rfl
  next := rfl
  joins := ⟨Option.some_ne_none now, rfl⟩
  joinsBefore := fun _ _ joined => joined
  freshKey := (insertViolation_eq_none_iff.mp accepted).1
  sameGroup := rfl
  names := rfl
  namesNone := rfl

theorem linear_rotate :
    Linear tokenLinks
      (rotatedRows deps draws current sessionMeta now rows) := by
  have hung := @extends_rotate deps users rows now draws sessionMeta current
    linear member unrevoked accepted
  have apart : ¬ ((RefreshSession.successor deps draws current
      sessionMeta).insertedAt now).id = current.id :=
    fun same => hung.freshKey current member same.symm
  have split := @updateWhere_concat_of_not _ (fun row => row.id = current.id)
    _ rows _ (replace now (some draws.id)) apart
  rw [rotatedRows, split]
  exact hung.linear_extend linear

end Rotations

theorem linear_leaves (linear : Linear tokenLinks rows)
    (leaves : Leaves deps users rows now call after)
    (newFamily : ∀ draws userId sessionMeta,
      call = .createSession draws userId sessionMeta →
        ∀ row ∈ rows, row.familyId ≠ draws.familyId) :
    Linear tokenLinks after := by
  cases leaves with
  | same => exact linear
  | opened draws userId sessionMeta accepted =>
      exact linear.concat_root (insertViolation_eq_none_iff.mp accepted).1
        (newFamily draws userId sessionMeta rfl) rfl rfl
  | rotated draws rawToken sessionMeta current member unrevoked accepted =>
      exact linear_rotate linear member unrevoked accepted
  | refused draws rawToken sessionMeta familyId => exact linear_revoke linear
  | ended rawToken token member unrevoked =>
      exact linear_end linear member unrevoked
  | allEnded userId => exact linear_revoke linear

end Linearity

/-- No call stores a hash twice. -/
theorem uniqueHash_leaves
    (unique : UniqueKey (fun row : RefreshToken => row.tokenHash) rows)
    (leaves : Leaves deps users rows now call after) :
    UniqueKey (fun row : RefreshToken => row.tokenHash) after := by
  cases leaves with
  | same => exact unique
  | opened draws userId sessionMeta accepted =>
      exact Unclashing.append unique
        (insertViolation_eq_none_iff.mp accepted).2.1
  | rotated draws rawToken sessionMeta current member unrevoked accepted =>
      have inserted : UniqueKey (fun row : RefreshToken => row.tokenHash)
          (rows ++ [(RefreshSession.successor deps draws current
            sessionMeta).insertedAt now]) :=
        Unclashing.append unique (insertViolation_eq_none_iff.mp accepted).2.1
      exact inserted.updateWhere fun _ => rfl
  | refused draws rawToken sessionMeta familyId =>
      exact unique.updateWhere fun _ => rfl
  | ended rawToken token member unrevoked =>
      exact unique.updateWhere fun _ => rfl
  | allEnded userId => exact unique.updateWhere fun _ => rfl

/-! ## Every family, in every reachable state -/

/-- The families that calls open. -/
def openedFamilies (calls : List (SessionCall × Time)) : List String :=
  calls.filterMap fun call =>
    match call.1 with
    | .createSession draws _ _ => some draws.familyId
    | _ => none

/--
The root of a family, from which `replacedById` leads through all of its rows.
-/
structure LeadsThrough (rows : List RefreshToken) (root : RefreshToken)
    (path : List RefreshToken) : Prop where
  isRoot : root ∈ rows ∧ root.parentId = none
  only : ∀ row ∈ rows, row.familyId = root.familyId → row.parentId = none →
    row = root
  once : (path.map fun row => row.id).Nodup
  visits : ∀ row, row ∈ path ↔ row ∈ rows ∧ row.familyId = root.familyId
  ends : ∀ last ∈ path.getLast?, last.replacedById = none
  revoked : ∀ row ∈ path.dropLast, row.revokedAt ≠ none
  owner : ∀ row ∈ path, row.userId = root.userId

section Families

variable {rows path : List RefreshToken} {familyId : String}

theorem owner_of_chain {root : RefreshToken} {rest : List RefreshToken}
    (linked : (root :: rest).IsChain tokenLinks.Linked) :
    ∀ row ∈ root :: rest, row.userId = root.userId := by
  induction rest generalizing root with
  | nil =>
      intro row member
      rw [List.mem_singleton.mp member]
  | cons next rest induction =>
      obtain ⟨joined, later⟩ := List.isChain_cons_cons.mp linked
      intro row member
      rcases List.mem_cons.mp member with rfl | inside
      · rfl
      · exact (induction later row inside).trans joined.2.2.2.symm

theorem revoked_of_chain {root : RefreshToken} {rest : List RefreshToken}
    (linked : (root :: rest).IsChain tokenLinks.Linked) :
    ∀ row ∈ (root :: rest).dropLast, row.revokedAt ≠ none := by
  induction rest generalizing root with
  | nil => simp
  | cons next rest induction =>
      obtain ⟨joined, later⟩ := List.isChain_cons_cons.mp linked
      intro row member
      rw [List.dropLast_cons_cons] at member
      rcases List.mem_cons.mp member with rfl | inside
      · exact joined.2.2.1
      · exact induction later row inside

/-- In a linear table every family is led through from its root. -/
theorem leadsThrough_of_linear (linear : Linear tokenLinks rows)
    {row : RefreshToken} (member : row ∈ rows) :
    ∃ root : RefreshToken, root.familyId = row.familyId ∧
      LeadsThrough rows root (follow tokenLinks rows rows.length root) := by
  obtain ⟨path, spans, inside⟩ := linear.path_of_mem member
  cases path with
  | nil => cases inside
  | cons root rest =>
      obtain ⟨there, same⟩ := (spans.exactly root).mp List.mem_cons_self
      have parent : root.parentId = none := spans.root root rfl
      have short : rest.length ≤ rows.length :=
        Nat.le_of_succ_le spans.length_le
      have path := @Spans.follow_eq _ _ _ tokenLinks rows (root :: rest) []
        rest _ root _ linear.unique spans rfl _ short
      refine ⟨root, same, ?_⟩
      rw [path]
      refine ⟨⟨there, parent⟩, ?_, ?_, ?_, spans.tip, ?_, ?_⟩
      · intro other otherThere inFamily otherRoot
        have head := spans.head_of_root
          ((spans.exactly other).mpr ⟨otherThere, inFamily.trans same⟩)
          otherRoot
        exact (Option.some.inj head).symm
      · exact List.pairwise_map.mpr spans.distinct
      · intro other
        rw [spans.exactly other, ← same]
        rfl
      · exact revoked_of_chain spans.linked
      · exact owner_of_chain spans.linked

end Families

section Runs

variable {deps : SessionDeps} {users : List User}
  {emailTokens : List EmailToken} {calls : List (SessionCall × Time)}

theorem openedFamilies_concat (calls : List (SessionCall × Time))
    (call : SessionCall × Time) :
    openedFamilies (calls ++ [call]) =
      openedFamilies calls ++ openedFamilies [call] :=
  List.filterMap_append

/-- A call adds no row but to a family that is stored or that it opens. -/
theorem family_of_leaves {rows after : List RefreshToken} {call : SessionCall}
    {now : Time} (leaves : Leaves deps users rows now call after)
    {opened : List String}
    (known : ∀ row ∈ rows, row.familyId ∈ opened) :
    ∀ row ∈ after, row.familyId ∈ opened ++ openedFamilies [(call, now)] := by
  have kept : ∀ row ∈ rows,
      row.familyId ∈ opened ++ openedFamilies [(call, now)] :=
    fun row member => List.mem_append_left _ (known row member)
  cases leaves with
  | same => exact kept
  | opened draws userId sessionMeta accepted =>
      intro row member
      rcases List.mem_append.mp member with old | new
      · exact kept row old
      · rw [List.mem_singleton.mp new]
        exact List.mem_append_right _ List.mem_cons_self
  | rotated draws rawToken sessionMeta current member unrevoked accepted =>
      refine forall_mem_updateWhere ?_ ?_
      · intro row there
        rcases List.mem_append.mp there with old | new
        · exact kept row old
        · rw [List.mem_singleton.mp new]
          exact kept current member
      · intro row there _
        rcases List.mem_append.mp there with old | new
        · exact kept row old
        · rw [List.mem_singleton.mp new]
          exact kept current member
  | refused draws rawToken sessionMeta familyId =>
      exact forall_mem_updateWhere kept fun row member _ => kept row member
  | ended rawToken token member unrevoked =>
      exact forall_mem_updateWhere kept fun row member _ => kept row member
  | allEnded userId =>
      exact forall_mem_updateWhere kept fun row member _ => kept row member

/-- In every state that calls reach the families are chains. -/
theorem linear_reach (distinct : (openedFamilies calls).Nodup) :
    let state :=
      (sessionMachine deps).reach (noSessions users emailTokens) calls
    state.users = users ∧ Linear tokenLinks state.refreshTokens ∧
      ∀ row ∈ state.refreshTokens, row.familyId ∈ openedFamilies calls := by
  induction calls using List.reverseRecOn with
  | nil => exact ⟨rfl, linear_nil, fun _ none => absurd none List.not_mem_nil⟩
  | append_singleton calls call induction =>
      rw [openedFamilies_concat, List.nodup_append] at distinct
      obtain ⟨same, linear, known⟩ := induction distinct.1
      rw [Transition.Machine.reach_concat]
      obtain ⟨kept, leaves⟩ := leaves_step deps _ call.1 call.2
      refine ⟨kept.trans same, linear_leaves linear leaves ?_, ?_⟩
      · intro draws userId sessionMeta opens row member clash
        refine distinct.2.2 _ (known row member) row.familyId ?_ rfl
        rw [clash]
        rcases call with ⟨call, now⟩
        obtain rfl : call = _ := opens
        exact List.mem_cons_self
      · rw [openedFamilies_concat]
        exact family_of_leaves leaves known

theorem uniqueHash_reach (deps : SessionDeps) (users : List User)
    (emailTokens : List EmailToken) (calls : List (SessionCall × Time)) :
    UniqueKey (fun row : RefreshToken => row.tokenHash)
      ((sessionMachine deps).reach (noSessions users emailTokens)
        calls).refreshTokens := by
  induction calls using List.reverseRecOn with
  | nil => exact unclashing_nil
  | append_singleton calls call induction =>
      rw [Transition.Machine.reach_concat]
      exact uniqueHash_leaves induction (leaves_step deps _ call.1 call.2).2

end Runs

/--
For any grace window the families are chains in every state that calls reach,
and the names of parents and replacements are inverse to each other.
-/
theorem families_are_chains
    (deps : SessionDeps) (users : List User) (emailTokens : List EmailToken)
    (calls : List (SessionCall × Time))
    (distinct : (openedFamilies calls).Nodup) :
    let rows := ((sessionMachine deps).reach (noSessions users emailTokens)
      calls).refreshTokens
    (∀ row ∈ rows, ∃ root : RefreshToken, root.familyId = row.familyId ∧
      LeadsThrough rows root (follow tokenLinks rows rows.length root)) ∧
      ∀ row ∈ rows, ∀ id, row.replacedById = some id ↔
        ∃ other ∈ rows, other.id = id ∧ other.parentId = some row.id := by
  intro rows
  have linear : Linear tokenLinks rows := (linear_reach distinct).2.1
  exact ⟨fun row member => leadsThrough_of_linear linear member,
    fun row member id => linear.next_eq_some_iff member id⟩

/-- A login, a refresh, a retry within the grace window and a logout. -/
theorem families_are_chains_retried :
    let rows := ((sessionMachine (sampleDeps 30)).reach
      (noSessions [sampleUser] [])
      [(.createSession (sampleDraws 0 "0") "user-1" none, 0),
        (.refresh (sampleDraws 1 "1") "raw-0" none, 1),
        (.refresh (sampleDraws 2 "2") "raw-0" none, 2),
        (.revoke "raw-2", 3)]).refreshTokens
    rows.map (fun row => row.replacedById) =
        [some "token-1", some "token-2", none] ∧
      ∀ row ∈ rows, ∃ root : RefreshToken, root.familyId = row.familyId ∧
        LeadsThrough rows root (follow tokenLinks rows rows.length root) :=
  ⟨by decide,
    (families_are_chains (sampleDeps 30) [sampleUser] [] _ (by decide)).1⟩

end ChatBackend.Auth.TokenChains
