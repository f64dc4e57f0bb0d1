import ChatBackend.Auth.ControlPoints
import ChatBackend.Auth.SessionRefinement

/-!
# Overlapping refreshes with one token

Any number of refreshes are presented with the same raw token, the grace window
being closed.  A refresh reads the token, and only two awaits later marks it
rotated; a second refresh that reads in between rotates the token as well.

`Overlaps` says that a turn is such a second read.  In a run without one, at
most one refresh returns a token pair and the family is left with at most one
unrevoked token.
-/

namespace ChatBackend.Auth.DoubleSpend

open Effects
open Relational
open Transition
open ChatBackend.Auth.TokenStore
open ChatBackend.Auth.TokenStore.PgRefreshTokenRepository
open ChatBackend.Auth.Sessions
open ChatBackend.Auth.ControlPoints
open ChatBackend.Auth.SessionLedger
open ChatBackend.Auth.SessionRefinement

/-! ## The property -/

/-- The family has at most one unrevoked row. -/
def SingleTip (family : String) (rows : List RefreshToken) : Prop :=
  ∀ row other, Live family rows row → Live family rows other → row = other

/-- The table keeps its constraints and no family has two unrevoked rows. -/
structure Sound (rows : List RefreshToken) : Prop where
  uniqueId : UniqueKey (fun row : RefreshToken => row.id) rows
  uniqueHash : UniqueKey (fun row : RefreshToken => row.tokenHash) rows
  singleTip : ∀ family, SingleTip family rows

/-- Rows that agree on the id are the family's only tip. -/
theorem singleTip_of_id {family tip : String} {rows : List RefreshToken}
    (unique : UniqueKey (fun row : RefreshToken => row.id) rows)
    (tips : ∀ row, Live family rows row → row.id = tip) :
    SingleTip family rows := by
  intro row other live otherLive
  exact
    unique.eq_of_key live.member otherLive.member
      ((tips row live).trans (tips other otherLive).symm)

/-- A table that represents a ledger of sessions is sound. -/
theorem sound_of_represents {deps : SessionDeps} {users : List User}
    {history : List (SessionCall × Time)} {state : AuthState}
    {ledger : Ledger}
    (represents : Represents deps users history state ledger) :
    Sound state.refreshTokens where
  uniqueId := represents.uniqueId
  uniqueHash := represents.uniqueHash
  singleTip := by
    intro family row other live otherLive
    rcases represents.stores row live.member with ⟨raw, rowFamily, stores⟩
    obtain ⟨otherRaw, otherFamily, otherStores⟩ :=
      represents.stores other otherLive.member
    have sameFamily : rowFamily = otherFamily := by
      have known := stores.known
      rw [live.inFamily, ← otherLive.inFamily, otherStores.known] at known
      exact (Option.some.inj known).symm
    subst sameFamily
    have current : raw = rowFamily.current := by
      by_contra rotated
      exact (stores.rotated rotated).1 live.unrevoked
    have otherCurrent : otherRaw = rowFamily.current := by
      by_contra rotated
      exact (otherStores.rotated rotated).1 otherLive.unrevoked
    rw [← otherCurrent] at current
    subst current
    exact
      represents.row_eq live.member otherLive.member stores otherStores

section Statement

variable {Name : Type*} (deps : SessionDeps) (rawToken : String)
  (draws : Name → SessionDraws)

/-- The refreshes of one raw token. -/
def refreshes (sessionMeta : Name → Option SessionMeta) (name : Name) :
    OverlappingCall :=
  .refresh (draws name) rawToken (sessionMeta name)

/--
At most one call has returned a token pair, and once all calls have finished
the family of the token has at most one unrevoked row.
-/
structure SpentOnce (calls : Calls Name) : Prop where
  returnedOnce : ∀ name other session otherSession,
    (calls.threads name).result? = some (some session) →
      (calls.threads other).result? = some (some otherSession) →
        name = other
  singleTip : calls.Quiescent → ∀ token ∈ calls.shared.refreshTokens,
    token.tokenHash = deps.hashRefresh rawToken →
      SingleTip token.familyId calls.shared.refreshTokens

/-- The call is about to insert the token's successor or to mark it rotated. -/
def Rotating (calls : Calls Name) (name : Name) (id : String) : Prop :=
  (∃ record, record.parentId = some id ∧
      calls.pending name = some (.refreshTokenRepo (.insert record))) ∨
    ∃ successorId,
      calls.pending name =
        some (.refreshTokenRepo (.markRevoked id (some successorId)))

/--
The turn reads the token unrevoked and unexpired while another call is still
rotating it.
-/
def Overlaps (calls : Calls Name) (label : Name × Time) : Prop :=
  calls.pending label.1 =
      some (.refreshTokenRepo (.findByHash (deps.hashRefresh rawToken))) ∧
    ∃ token ∈ first
        (fun row => row.tokenHash = deps.hashRefresh rawToken)
        calls.shared.refreshTokens,
      token.revokedAt = none ∧ ¬ token.expiresAt < (draws label.1).now ∧
        ∃ other, Rotating calls other token.id

instance (calls : Calls Name) (name : Name) (id : String) :
    Decidable (Rotating calls name id) :=
  match pending : calls.pending name with
  | some (.refreshTokenRepo (.insert record)) =>
      decidable_of_iff (record.parentId = some id) (by simp [Rotating, pending])
  | some (.refreshTokenRepo (.markRevoked marked (some _))) =>
      decidable_of_iff (marked = id) (by simp [Rotating, pending])
  | some (.refreshTokenRepo (.markRevoked _ none))
  | some (.refreshTokenRepo (.findById _))
  | some (.refreshTokenRepo (.findByHash _))
  | some (.refreshTokenRepo (.revokeFamily _))
  | some (.refreshTokenRepo (.revokeAllForUser _))
  | some (.emailTokenRepo _) | some (.userRepo _) | some (.hashPassword _ _)
  | some (.signAccess _) | none =>
      isFalse (by simp [Rotating, pending])

instance (calls : Calls Name) (label : Name × Time)
    [∀ id, Decidable (∃ other, Rotating calls other id)] :
    Decidable (Overlaps deps rawToken draws calls label) :=
  inferInstanceAs (Decidable (_ ∧ _))

end Statement

/-! ## The invariant -/

/-- The call has read the token unrevoked and has not failed since. -/
def Passed : ControlPoint → Prop
  | .inserting _ _ _ => True
  | .marking _ _ => True
  | .signing _ _ => True
  | .returned (some _) => True
  | _ => False

/-- The call is rotating the token. -/
def RotatingAt (id : String) : ControlPoint → Prop
  | .inserting _ current _ => current.id = id
  | .marking _ current => current.id = id
  | _ => False

section Invariant

variable (deps : SessionDeps) (rawToken id family : String)

/-- The token is revoked and its successor is the only unrevoked row. -/
def Spent (successorId : String) (rows : List RefreshToken) : Prop :=
  (∀ row, Live family rows row → row.id = successorId) ∧
    ∀ row ∈ rows, row.id = id → row.revokedAt ≠ none

/-- What is known of a call at its control point. -/
def Stands (draws : SessionDraws) (rows : List RefreshToken) :
    ControlPoint → Prop
  | .reading callDraws callToken _ =>
      callDraws = draws ∧ callToken = rawToken
  | .inserting callDraws current _ =>
      callDraws = draws ∧ current.id = id ∧
        (∃ row ∈ rows, row.tokenHash = deps.hashRefresh rawToken) ∧
          ∀ row, Live family rows row → row.id = id
  | .marking callDraws current =>
      callDraws = draws ∧ current.id = id ∧
        ∀ row, Live family rows row → row.id = id ∨ row.id = draws.id
  | .signing callDraws _ =>
      callDraws = draws ∧ Spent id family draws.id rows
  | .returned (some _) => Spent id family draws.id rows
  | .refusing _ => True
  | .failed _ => True
  | _ => False

/-- At most one call has passed, and the unrevoked rows tell how far it is. -/
structure Guarded {Name : Type*} (draws : Name → SessionDraws)
    (state : AuthState) (points : Name → ControlPoint) : Prop where
  uniqueId : UniqueKey (fun row : RefreshToken => row.id) state.refreshTokens
  named : ∀ row ∈ state.refreshTokens,
    row.tokenHash = deps.hashRefresh rawToken →
      row.id = id ∧ row.familyId = family
  stands : ∀ name,
    Stands deps rawToken id family (draws name) state.refreshTokens
      (points name)
  one : ∀ name other, Passed (points name) → Passed (points other) →
    name = other
  idle : (∀ name, ¬ Passed (points name)) →
    SingleTip family state.refreshTokens

end Invariant

section Steps

variable {Name : Type*} [DecidableEq Name] {deps : SessionDeps}
  {rawToken id family : String} {draws : Name → SessionDraws}
  {state after : AuthState} {points : Name → ControlPoint}
  {name : Name} {point : ControlPoint}
  {rows rowsAfter : List RefreshToken}

/-- A call that has not passed knows nothing of the table. -/
theorem Stands.of_not_passed {callDraws : SessionDraws}
    (stands : Stands deps rawToken id family callDraws rows point)
    (notPassed : ¬ Passed point) :
    Stands deps rawToken id family callDraws rowsAfter point := by
  cases point with
  | inserting => exact absurd trivial notPassed
  | marking => exact absurd trivial notPassed
  | signing => exact absurd trivial notPassed
  | returned result =>
      cases result with
      | none => exact stands
      | some session => exact absurd trivial notPassed
  | _ => exact stands

/-- Revoking rows keeps what a call knows. -/
theorem Stands.revoked {callDraws : SessionDraws}
    {condition : RefreshToken → Prop} [DecidablePred condition]
    {change : RefreshToken → RefreshToken} (revokes : Revokes change)
    (stands : Stands deps rawToken id family callDraws rows point) :
    Stands deps rawToken id family callDraws
      (updateWhere condition change rows) point := by
  have live : ∀ row,
      Live family (updateWhere condition change rows) row →
        Live family rows row := by
    intro row live
    exact
      ⟨(unrevoked_updateWhere revokes live.member live.unrevoked).1,
        live.inFamily, live.unrevoked⟩
  have writes : Writes rows (updateWhere condition change rows) :=
    .revoked condition revokes
  have spent : Spent id family callDraws.id rows →
      Spent id family callDraws.id (updateWhere condition change rows) := by
    rintro ⟨successor, revoked⟩
    refine ⟨fun row isLive => successor row (live row isLive), ?_⟩
    intro row member isToken
    rcases mem_updateWhere.mp member with ⟨old, oldMember, rfl⟩
    split_ifs at isToken ⊢
    · exact revokes.closes old
    · exact revoked old oldMember isToken
  cases point with
  | inserting callDraws current sessionMeta =>
      rcases stands with ⟨sameDraws, isToken, ⟨row, member, hash⟩, tips⟩
      rcases writes.later member with ⟨later, laterMember, isLater⟩
      exact
        ⟨sameDraws, isToken,
          ⟨later, laterMember, isLater.tokenHash.trans hash⟩,
          fun row isLive => tips row (live row isLive)⟩
  | marking callDraws current =>
      rcases stands with ⟨sameDraws, isToken, tips⟩
      exact
        ⟨sameDraws, isToken, fun row isLive => tips row (live row isLive)⟩
  | signing callDraws current => exact ⟨stands.1, spent stands.2⟩
  | returned result =>
      cases result with
      | none => exact stands
      | some session => exact spent stands
  | _ => exact stands

/-- Rebuild the invariant after a turn of one call. -/
theorem Guarded.update
    (guarded : Guarded deps rawToken id family draws state points)
    (writes : Writes state.refreshTokens after.refreshTokens)
    (named : ∀ row ∈ after.refreshTokens,
      row.tokenHash = deps.hashRefresh rawToken →
        row.id = id ∧ row.familyId = family)
    (stands : Stands deps rawToken id family (draws name)
      after.refreshTokens point)
    (others : ∀ other, other ≠ name →
      Stands deps rawToken id family (draws other) after.refreshTokens
        (points other))
    (one : Passed point → ∀ other, other ≠ name → ¬ Passed (points other))
    (idle : ¬ Passed point → (∀ other, other ≠ name → ¬ Passed (points other)) →
      SingleTip family after.refreshTokens) :
    Guarded deps rawToken id family draws after
      (Function.update points name point) where
  uniqueId := writes.uniqueId guarded.uniqueId
  named := named
  stands :=
    (Function.forall_update_iff points fun other point =>
      Stands deps rawToken id family (draws other) after.refreshTokens
        point).mpr ⟨stands, others⟩
  one := by
    have unique := @Config.atMostOne_update _ _ _ points
      (fun _ point => Passed point) name point guarded.one one
    exact unique
  idle := by
    intro nobody
    refine idle ?_ ?_
    · simpa using nobody name
    · intro other distinct
      simpa [Function.update_of_ne distinct] using nobody other

/-- A turn that leaves the table and passes no check. -/
theorem Guarded.keep
    (guarded : Guarded deps rawToken id family draws state points)
    (kept : after.refreshTokens = state.refreshTokens)
    (notPassed : ¬ Passed (points name)) (stillNot : ¬ Passed point)
    (stands : Stands deps rawToken id family (draws name)
      state.refreshTokens point) :
    Guarded deps rawToken id family draws after
      (Function.update points name point) := by
  refine guarded.update ?_ ?_ ?_ ?_ ?_ ?_
  · rw [kept]
    exact .kept
  · rw [kept]
    exact guarded.named
  · rw [kept]
    exact stands
  · intro other _
    rw [kept]
    exact guarded.stands other
  · intro passed
    exact absurd passed stillNot
  · intro _ nobody
    rw [kept]
    refine guarded.idle ?_
    intro other
    by_cases same : other = name
    · rw [same]
      exact notPassed
    · exact nobody other same

/-- A turn of the call that has passed. -/
theorem Guarded.advance
    (guarded : Guarded deps rawToken id family draws state points)
    (writes : Writes state.refreshTokens after.refreshTokens)
    (named : ∀ row ∈ after.refreshTokens,
      row.tokenHash = deps.hashRefresh rawToken →
        row.id = id ∧ row.familyId = family)
    (passed : Passed (points name))
    (stands : Stands deps rawToken id family (draws name)
      after.refreshTokens point)
    (idle : ¬ Passed point → SingleTip family after.refreshTokens) :
    Guarded deps rawToken id family draws after
      (Function.update points name point) := by
  have alone : ∀ other, other ≠ name → ¬ Passed (points other) :=
    fun other distinct otherPassed =>
      distinct (guarded.one other name otherPassed passed)
  refine guarded.update writes named stands ?_ ?_ ?_
  · intro other distinct
    exact (guarded.stands other).of_not_passed (alone other distinct)
  · exact fun _ => alone
  · exact fun notPassed _ => idle notPassed

/-- Revoking rows does not change which row a raw token names. -/
theorem named_revoked {condition : RefreshToken → Prop}
    [DecidablePred condition] {change : RefreshToken → RefreshToken}
    (revokes : Revokes change)
    (named : ∀ row ∈ rows, row.tokenHash = deps.hashRefresh rawToken →
      row.id = id ∧ row.familyId = family) :
    ∀ row ∈ updateWhere condition change rows,
      row.tokenHash = deps.hashRefresh rawToken →
        row.id = id ∧ row.familyId = family := by
  intro row member hash
  rcases mem_updateWhere.mp member with ⟨old, oldMember, rfl⟩
  split_ifs at hash ⊢
  · have isLater := revokes.later old
    rw [isLater.tokenHash] at hash
    rw [isLater.id, isLater.familyId]
    exact named old oldMember hash
  · exact named old oldMember hash

/--
A call reads the token unrevoked.  No other call has passed: one that had
marked the token would have revoked it, and one that had not is excluded.
-/
theorem Guarded.pass {callDraws : SessionDraws} {current : RefreshToken}
    {sessionMeta : Option SessionMeta}
    (guarded : Guarded deps rawToken id family draws state points)
    (sameDraws : callDraws = draws name)
    (found :
      first (fun row => row.tokenHash = deps.hashRefresh rawToken)
        state.refreshTokens = some current)
    (unrevoked : current.revokedAt = none)
    (serial : ∀ other, ¬ RotatingAt current.id (points other)) :
    Guarded deps rawToken id family draws state
      (Function.update points name
        (.inserting callDraws current sessionMeta)) := by
  have member := mem_of_first found
  have hash := condition_of_first found
  rcases guarded.named current member hash with ⟨isToken, inFamily⟩
  have nobody : ∀ other, ¬ Passed (points other) := by
    intro other passed
    have stands := guarded.stands other
    cases at_ : points other with
    | inserting otherDraws token otherMeta =>
        rw [at_] at stands
        refine serial other ?_
        rw [at_]
        exact stands.2.1.trans isToken.symm
    | marking otherDraws token =>
        rw [at_] at stands
        refine serial other ?_
        rw [at_]
        exact stands.2.1.trans isToken.symm
    | signing otherDraws token =>
        rw [at_] at stands
        exact stands.2.2 current member isToken unrevoked
    | returned result =>
        rw [at_] at stands passed
        cases result with
        | none => exact passed
        | some session => exact stands.2 current member isToken unrevoked
    | _ =>
        rw [at_] at passed
        exact passed
  refine
    guarded.update .kept guarded.named ?_
      (fun other _ => guarded.stands other) (fun _ other _ => nobody other)
      (fun notPassed => absurd trivial notPassed)
  refine ⟨sameDraws, isToken, ⟨current, member, hash⟩, ?_⟩
  intro row live
  have equal :=
    guarded.idle nobody row current live ⟨member, inFamily, unrevoked⟩
  rw [equal]
  exact isToken

/-- The turn of a call that inserts the successor. -/
theorem Guarded.insert {callDraws : SessionDraws} {current : RefreshToken}
    {sessionMeta : Option SessionMeta} {now : Time}
    (guarded : Guarded deps rawToken id family draws state points)
    (stand : points name = .inserting callDraws current sessionMeta)
    (accepted :
      insertViolation state.users state.refreshTokens
        (RefreshSession.successor deps callDraws current sessionMeta) =
          none) :
    Guarded deps rawToken id family draws
      (withTokens state
        (state.refreshTokens ++
          [(RefreshSession.successor deps callDraws current
            sessionMeta).insertedAt now]))
      (Function.update points name (.marking callDraws current)) := by
  have stands := guarded.stands name
  rw [stand] at stands
  rcases stands with ⟨sameDraws, isToken, ⟨row, member, hash⟩, tips⟩
  rcases insertViolation_eq_none_iff.mp accepted with ⟨newId, newHash, -⟩
  refine
    guarded.advance (.appended _ newId newHash) ?_ (by rw [stand]; trivial)
      ?_ (fun notPassed => absurd trivial notPassed)
  · intro other otherMember otherHash
    rcases List.mem_append.mp otherMember with older | newest
    · exact guarded.named other older otherHash
    · rw [List.mem_singleton.mp newest] at otherHash
      exact absurd (hash.trans otherHash.symm) (newHash row member)
  · refine ⟨sameDraws, isToken, ?_⟩
    intro other live
    rcases List.mem_append.mp live.member with older | newest
    · exact .inl (tips other ⟨older, live.inFamily, live.unrevoked⟩)
    · rw [List.mem_singleton.mp newest, ← sameDraws]
      exact .inr rfl

/-- The turn of a call that marks the token rotated. -/
theorem Guarded.mark {callDraws : SessionDraws} {current : RefreshToken}
    {now : Time}
    (guarded : Guarded deps rawToken id family draws state points)
    (stand : points name = .marking callDraws current) :
    Guarded deps rawToken id family draws
      (withTokens state
        (updateWhere (fun row => row.id = current.id)
          (replace now (some callDraws.id)) state.refreshTokens))
      (Function.update points name (.signing callDraws current)) := by
  have stands := guarded.stands name
  rw [stand] at stands
  rcases stands with ⟨sameDraws, isToken, tips⟩
  have revokes := revokes_replace now (some callDraws.id)
  refine
    guarded.advance (.revoked _ revokes) (named_revoked revokes guarded.named)
      (by rw [stand]; trivial) ?_ (fun notPassed => absurd trivial notPassed)
  refine ⟨sameDraws, ?_, ?_⟩
  · intro row live
    obtain ⟨member, notToken⟩ :=
      unrevoked_updateWhere revokes live.member live.unrevoked
    rcases tips row ⟨member, live.inFamily, live.unrevoked⟩ with
      token | successor
    · exact absurd (token.trans isToken.symm) notToken
    · exact successor
  · intro row member ofToken
    rcases mem_updateWhere.mp member with ⟨old, oldMember, rfl⟩
    by_cases selected : old.id = current.id
    · rw [if_pos selected]
      exact revokes.closes old
    · rw [if_neg selected, ← isToken] at ofToken
      exact absurd ofToken selected

/-- A call that fails while rotating leaves at most one unrevoked row. -/
theorem Guarded.fail {error : Failure}
    (guarded : Guarded deps rawToken id family draws state points)
    (passed : Passed (points name))
    (tips : ∀ row, Live family state.refreshTokens row → row.id = id) :
    Guarded deps rawToken id family draws state
      (Function.update points name (.failed error)) :=
  guarded.advance .kept guarded.named passed trivial
    fun _ => singleTip_of_id guarded.uniqueId tips

/-- The turn of a call that revokes the family. -/
theorem Guarded.revokeFamily {current : RefreshToken} {error : Failure}
    {now : Time} {revokedFamily : String}
    (guarded : Guarded deps rawToken id family draws state points)
    (stand : points name = .refusing current) :
    Guarded deps rawToken id family draws
      (withTokens state
        (updateWhere
          (fun row => row.familyId = revokedFamily ∧ row.revokedAt = none)
          (revoke now) state.refreshTokens))
      (Function.update points name (.failed error)) := by
  have revokes := revokes_revoke now
  refine
    guarded.update (.revoked _ revokes) (named_revoked revokes guarded.named)
      trivial (fun other _ => (guarded.stands other).revoked revokes)
      (fun passed => passed.elim) ?_
  intro _ nobody row other live otherLive
  refine
    guarded.idle ?_ row other
      ⟨(unrevoked_updateWhere revokes live.member live.unrevoked).1,
        live.inFamily, live.unrevoked⟩
      ⟨(unrevoked_updateWhere revokes otherLive.member
        otherLive.unrevoked).1, otherLive.inFamily, otherLive.unrevoked⟩
  intro caller
  by_cases same : caller = name
  · rw [same, stand]
    exact fun passed => passed
  · exact nobody caller same

/-- One turn keeps the invariant, unless it is an overlapping read. -/
theorem Guarded.move {now : Time} (noGrace : deps.graceWindowSec = 0)
    (guarded : Guarded deps rawToken id family draws state points)
    (moves : Moves deps now state (points name) point after)
    (serial : ∀ sessionMeta current,
      points name = .reading (draws name) rawToken sessionMeta →
        first (fun row => row.tokenHash = deps.hashRefresh rawToken)
            state.refreshTokens = some current →
          current.revokedAt = none → ¬ current.expiresAt < (draws name).now →
            ∀ other, ¬ RotatingAt current.id (points other)) :
    Guarded deps rawToken id family draws after
      (Function.update points name point) := by
  have stands := guarded.stands name
  generalize stand : points name = start at moves stands
  cases moves with
  | unknown notFound =>
      exact guarded.keep rfl (by simp [stand, Passed]) not_false trivial
  | passed found unrevoked unexpired =>
      rcases stands with ⟨rfl, rfl⟩
      exact
        guarded.pass rfl found unrevoked
          (serial _ _ stand found unrevoked unexpired)
  | expired found unrevoked expired =>
      exact guarded.keep rfl (by simp [stand, Passed]) not_false trivial
  | graced found revoked replaced grace =>
      rw [noGrace] at grace
      exact absurd grace (Int.lt_irrefl 0)
  | replayed found revoked =>
      exact guarded.keep rfl (by simp [stand, Passed]) not_false trivial
  | inserted accepted => exact guarded.insert stand accepted
  | insertRefused =>
      rcases stands with ⟨-, -, -, tips⟩
      exact guarded.fail (by simp [stand, Passed]) tips
  | marked => exact guarded.mark stand
  | markRefused dangling =>
      rcases stands with ⟨sameDraws, -, tips⟩
      refine guarded.fail (by simp [stand, Passed]) ?_
      intro row live
      rcases tips row live with token | successor
      · exact token
      · rw [← sameDraws] at successor
        exact
          absurd (references_some_iff.mpr ⟨row, live.member, successor⟩)
            dangling
  | signed =>
      rcases stands with ⟨sameDraws, spent⟩
      exact
        guarded.advance .kept guarded.named (by simp [stand, Passed]) spent
          (fun notPassed => absurd trivial notPassed)
  | familyRevoked replaced => exact guarded.revokeFamily stand
  | refused notReplaced =>
      exact guarded.keep rfl (by simp [stand, Passed]) not_false trivial
  | returned =>
      rw [← stand, Function.update_eq_self]
      exact guarded
  | failed =>
      rw [← stand, Function.update_eq_self]
      exact guarded
  | _ => exact stands.elim

end Steps

/-! ## Runs -/

section Runs

variable {Name : Type*} {deps : SessionDeps}
  {rawToken : String} {draws : Name → SessionDraws}
  {sessionMeta : Name → Option SessionMeta} {state : AuthState}
  {schedule : List (Name × Time)}

/-- The calls stand at control points that satisfy the invariant. -/
def Invariant (deps : SessionDeps) (rawToken id family : String)
    (draws : Name → SessionDraws) (calls : Calls Name) : Prop :=
  calls.Described (fun _ point => point.program deps)
    (Guarded deps rawToken id family draws)

theorem rotating_of_rotatingAt {calls : Calls Name} {name : Name}
    {point : ControlPoint} {id : String}
    (stand : calls.threads name = point.program deps)
    (rotating : RotatingAt id point) : Rotating calls name id := by
  cases point with
  | inserting callDraws current callMeta =>
      refine .inl ⟨RefreshSession.successor deps callDraws current callMeta,
        congrArg some rotating, ?_⟩
      rw [Config.pending, stand]
      rfl
  | marking callDraws current =>
      refine .inr ⟨callDraws.id, ?_⟩
      rw [Config.pending, stand, ← rotating]
      rfl
  | _ => exact rotating.elim

/-- The invariant gives the property in every state. -/
theorem Invariant.spentOnce {id family : String} {calls : Calls Name}
    (invariant : Invariant deps rawToken id family draws calls) :
    SpentOnce deps rawToken calls := by
  rcases invariant with ⟨points, stand, guarded⟩
  constructor
  · intro name other session otherSession result otherResult
    rw [stand] at result otherResult
    refine guarded.one name other ?_ ?_
    · rw [ControlPoint.returned_of_result result]
      trivial
    · rw [ControlPoint.returned_of_result otherResult]
      trivial
  · intro quiescent token member hash
    rcases guarded.named token member hash with ⟨-, inFamily⟩
    rw [inFamily]
    by_cases somebody : ∃ name, Passed (points name)
    · rcases somebody with ⟨name, passed⟩
      have finished : ((points name).program deps).Finished := by
        have ended := quiescent name
        rwa [stand] at ended
      have stands := guarded.stands name
      generalize points name = point at passed finished stands
      cases point with
      | returned result =>
          cases result with
          | none => exact passed.elim
          | some session => exact singleTip_of_id guarded.uniqueId stands.1
      | inserting => exact absurd finished (Option.some_ne_none _)
      | marking => exact absurd finished (Option.some_ne_none _)
      | signing => exact absurd finished (Option.some_ne_none _)
      | _ => exact passed.elim
    · exact guarded.idle (not_exists.mp somebody)

/-- The calls start at points that satisfy the invariant. -/
theorem invariant_started
    (sound : Sound state.refreshTokens) :
    ∃ id family,
      Invariant deps rawToken id family draws
        (started deps (refreshes rawToken draws sessionMeta) state) := by
  obtain ⟨id, family, named⟩ :
      ∃ id family, ∀ row ∈ state.refreshTokens,
        row.tokenHash = deps.hashRefresh rawToken →
          row.id = id ∧ row.familyId = family := by
    by_cases known :
        ∃ row ∈ state.refreshTokens,
          row.tokenHash = deps.hashRefresh rawToken
    · rcases known with ⟨token, member, hash⟩
      refine ⟨token.id, token.familyId, ?_⟩
      intro row rowMember rowHash
      have equal :=
        sound.uniqueHash.eq_of_key rowMember member (rowHash.trans hash.symm)
      rw [equal]
      exact ⟨rfl, rfl⟩
    · refine ⟨"", "", ?_⟩
      intro row member hash
      exact absurd ⟨row, member, hash⟩ known
  refine ⟨id, family, fun name =>
    .reading (draws name) rawToken (sessionMeta name), rfl, ?_⟩
  exact
    { uniqueId := sound.uniqueId
      named := named
      stands := fun name => ⟨rfl, rfl⟩
      one := fun _ _ passed => passed.elim
      idle := fun _ => sound.singleTip family }

variable [DecidableEq Name]

/-- One turn keeps the invariant, unless it is an overlapping read. -/
theorem Invariant.turn {id family : String} {calls : Calls Name}
    {label : Name × Time} (noGrace : deps.graceWindowSec = 0)
    (invariant : Invariant deps rawToken id family draws calls)
    (serial : ¬ Overlaps deps rawToken draws calls label) :
    Invariant deps rawToken id family draws
      (ControlPoints.turn deps calls label) := by
  refine Config.described_advance ?_ invariant
  intro points stand guarded
  obtain ⟨next, after, resumed, moves⟩ :=
    resume_moves deps label.2 calls.shared (points label.1)
  refine ⟨next, after, resumed, guarded.move noGrace moves ?_⟩
  intro callMeta current reading found unrevoked unexpired other rotating
  refine serial ⟨?_, current, found, unrevoked, unexpired, other, ?_⟩
  · rw [Config.pending, stand]
    simp only [reading]
    rfl
  · exact rotating_of_rotatingAt (by rw [stand]) rotating

/--
In a run without overlapping reads the token is spent once: in every state of
the run at most one call has returned a token pair, and if all have finished
the family has at most one unrevoked token.
-/
theorem no_double_spend
    (noGrace : deps.graceWindowSec = 0) (sound : Sound state.refreshTokens)
    (serial :
      Along (turn deps)
        (fun calls label => ¬ Overlaps deps rawToken draws calls label)
        (started deps (refreshes rawToken draws sessionMeta) state)
        schedule) :
    Throughout (turn deps) (SpentOnce deps rawToken)
      (started deps (refreshes rawToken draws sessionMeta) state)
      schedule := by
  obtain ⟨id, family, start⟩ :
      ∃ id family,
        Invariant deps rawToken id family draws
          (started deps (refreshes rawToken draws sessionMeta) state) :=
    invariant_started sound
  have throughout :
      Throughout (turn deps) (Invariant deps rawToken id family draws)
        (started deps (refreshes rawToken draws sessionMeta) state)
        schedule :=
    throughout_of_preserved
      (fun _ _ invariant notOverlaps => invariant.turn noGrace notOverlaps)
      start serial
  exact throughout.imp fun _ invariant => invariant.spentOnce

end Runs

/-! ## Two calls -/

def twoDraws : Bool → SessionDraws
  | false => sampleDraws 1000 "1"
  | true => sampleDraws 1000 "2"

/-- Two refreshes of the token of the login. -/
def twoRefreshes : Calls Bool :=
  started (sampleDeps 0) (refreshes "raw-0" twoDraws fun _ => none)
    (sampleState 0)

theorem sound_sampleState : Sound (sampleState 0).refreshTokens where
  uniqueId := List.pairwise_singleton _ _
  uniqueHash := List.pairwise_singleton _ _
  singleTip := by
    intro family row other live otherLive
    rw [List.mem_singleton.mp live.member,
      List.mem_singleton.mp otherLive.member]

/-- One refresh after the other: the second is refused. -/
theorem no_double_spend_twoRefreshes :
    SpentOnce (sampleDeps 0) "raw-0"
      (run (turn (sampleDeps 0)) twoRefreshes
        [(false, 1), (false, 2), (false, 3), (false, 4), (true, 5),
          (true, 6)]) :=
  (no_double_spend rfl sound_sampleState (by decide)).final

/-- Turn by turn, both refreshes return a token pair. -/
theorem double_spend :
    Sound (sampleState 0).refreshTokens ∧
      ¬ SpentOnce (sampleDeps 0) "raw-0"
        (run (turn (sampleDeps 0)) twoRefreshes
          [(false, 1), (true, 1), (false, 2), (true, 2), (false, 3),
            (true, 3), (false, 4), (true, 4)]) := by
  refine ⟨sound_sampleState, fun spentOnce => ?_⟩
  have equal :=
    spentOnce.returnedOnce false true ⟨"user-1.jti-1", "raw-1"⟩
      ⟨"user-1.jti-2", "raw-2"⟩ (by decide) (by decide)
  exact Bool.noConfusion equal

end ChatBackend.Auth.DoubleSpend
