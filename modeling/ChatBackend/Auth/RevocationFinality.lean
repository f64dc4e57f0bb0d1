import ChatBackend.Auth.ControlPoints
import ChatBackend.Auth.TokenChains

/-!
# Revocations that overlap refreshes

Refreshes of any tokens overlap calls that revoke: logouts, refreshes that
replay a rotated token, and password resets.  The update of a revoking call
reaches the rows that are in the table at that moment; a refresh that has
passed its check inserts its row later.

`Closes` says that a turn is the last one by which a revoking call disposes of
a family, `Seals` that nothing of the family escapes it.  In a run whose closing
turns seal, a closed family has no unrevoked row ever after, and a refresh that
presents a token of it afterwards returns nothing.
-/

namespace ChatBackend.Auth.RevocationFinality

open Effects
open Relational
open Transition
open ChatBackend.Auth.TokenStore
open ChatBackend.Auth.TokenStore.PgRefreshTokenRepository
open ChatBackend.Auth.Sessions
open ChatBackend.Auth.ControlPoints
open ChatBackend.Auth.SessionRefinement (noSessions sessionMachine)
open ChatBackend.Auth.TokenChains

/-! ## The property -/

/-- The family has no unrevoked row. -/
def Closed (family : String) (rows : List RefreshToken) : Prop :=
  ∀ row, ¬ Live family rows row

/--
The table keeps its constraints, the rows of a family belong to one user, and
`replaced_by_id` leads to a row of the same family.  `intact_reach` says so of
the tables that calls reach.
-/
structure Intact (rows : List RefreshToken) : Prop where
  uniqueId : UniqueKey (fun row : RefreshToken => row.id) rows
  uniqueHash : UniqueKey (fun row : RefreshToken => row.tokenHash) rows
  sameUser : ∀ row ∈ rows, ∀ other ∈ rows, row.familyId = other.familyId →
    row.userId = other.userId
  linked : ∀ row ∈ rows, ∀ id ∈ row.replacedById,
    ∃ other ∈ rows, other.id = id ∧ other.familyId = row.familyId

/-- The family an operation inserts a row into. -/
def insertedFamily : AuthOp → Option String
  | .refreshTokenRepo (.insert record) => some record.familyId
  | _ => none

section Statement

variable {Name : Type*} (call : Name → OverlappingCall) (family : String)

/--
The turn is the last one of a revoking call that disposes of the family: the
update of a replay, of a password reset or of a logout, or the lookup of a
logout that finds its token already revoked.
-/
def Closes (calls : Calls Name) (label : Name × Time) : Prop :=
  match calls.pending label.1 with
  | some (.refreshTokenRepo (.revokeFamily revoked)) => revoked = family
  | some (.refreshTokenRepo (.revokeAllForUser user)) =>
      ∃ row ∈ calls.shared.refreshTokens,
        row.familyId = family ∧ row.userId = user
  | some (.refreshTokenRepo (.markRevoked id none)) =>
      ∃ row ∈ calls.shared.refreshTokens, row.id = id ∧ row.familyId = family
  | some (.refreshTokenRepo (.findByHash hash)) =>
      (call label.1).isLogout = true ∧
        ∃ token ∈ first (fun row => row.tokenHash = hash)
            calls.shared.refreshTokens,
          token.familyId = family ∧ token.revokedAt ≠ none
  | _ => False

/-- A refresh is about to insert a row of the family. -/
def Inserting (calls : Calls Name) : Prop :=
  ∃ name, (calls.pending name).bind insertedFamily = some family

/--
No refresh is about to insert a row of the family, and the turn reaches every
unrevoked row: a logout's update reaches the token it presents, its lookup
none, and the other updates the whole family.
-/
def Seals (calls : Calls Name) (label : Name × Time) : Prop :=
  ¬ Inserting family calls ∧
    match calls.pending label.1 with
    | some (.refreshTokenRepo (.markRevoked id none)) =>
        ∀ row, Live family calls.shared.refreshTokens row → row.id = id
    | some (.refreshTokenRepo (.findByHash _)) =>
        Closed family calls.shared.refreshTokens
    | _ => True

/--
The revoking call has disposed of the family in the run: a logout of one of its
tokens has ended, a replay has revoked the family, or a password reset has
revoked the tokens of the user whose family it is.
-/
def Disposes [DecidableEq Name] (deps : SessionDeps) (state : AuthState)
    (schedule : List (Name × Time)) (revoker : Name) : Prop :=
  match call revoker with
  | .logout rawToken =>
      ((run (turn deps) (started deps call state) schedule).threads
          revoker).Finished ∧
        ∃ row ∈ state.refreshTokens,
          row.tokenHash = deps.hashRefresh rawToken ∧ row.familyId = family
  | .refresh _ _ _ =>
      Occurs (turn deps)
        (fun calls label => label.1 = revoker ∧
          calls.pending revoker =
            some (.refreshTokenRepo (.revokeFamily family)))
        (started deps call state) schedule
  | .confirmPasswordReset _ _ _ =>
      ∃ row ∈ state.refreshTokens, row.familyId = family ∧
        Occurs (turn deps)
          (fun calls label => label.1 = revoker ∧
            calls.pending revoker =
              some (.refreshTokenRepo (.revokeAllForUser row.userId)))
          (started deps call state) schedule

instance (rows : List RefreshToken) : Decidable (Closed family rows) :=
  decidable_of_iff
    (∀ row ∈ rows, ¬ (row.familyId = family ∧ row.revokedAt = none))
    ⟨fun closed row live =>
        closed row live.member ⟨live.inFamily, live.unrevoked⟩,
      fun closed row member live => closed row ⟨member, live.1, live.2⟩⟩

instance (calls : Calls Name) (label : Name × Time) :
    Decidable (Closes call family calls label) :=
  match pending : calls.pending label.1 with
  | some (.refreshTokenRepo (.revokeFamily revoked)) =>
      decidable_of_iff (revoked = family) (by simp [Closes, pending])
  | some (.refreshTokenRepo (.revokeAllForUser user)) =>
      decidable_of_iff
        (∃ row ∈ calls.shared.refreshTokens,
          row.familyId = family ∧ row.userId = user)
        (by simp [Closes, pending])
  | some (.refreshTokenRepo (.markRevoked id none)) =>
      decidable_of_iff
        (∃ row ∈ calls.shared.refreshTokens,
          row.id = id ∧ row.familyId = family)
        (by simp [Closes, pending])
  | some (.refreshTokenRepo (.findByHash hash)) =>
      decidable_of_iff
        ((call label.1).isLogout = true ∧
          ∃ token ∈ first (fun row : RefreshToken => row.tokenHash = hash)
              calls.shared.refreshTokens,
            token.familyId = family ∧ token.revokedAt ≠ none)
        (by simp [Closes, pending])
  | some (.refreshTokenRepo (.markRevoked _ (some _)))
  | some (.refreshTokenRepo (.findById _))
  | some (.refreshTokenRepo (.insert _))
  | some (.emailTokenRepo _) | some (.userRepo _) | some (.hashPassword _ _)
  | some (.signAccess _) | none =>
      isFalse (by simp [Closes, pending])

instance (calls : Calls Name) (label : Name × Time)
    [Decidable (Inserting family calls)] :
    Decidable (Seals family calls label) :=
  match pending : calls.pending label.1 with
  | some (.refreshTokenRepo (.markRevoked id none)) =>
      decidable_of_iff
        (¬ Inserting family calls ∧
          ∀ row ∈ calls.shared.refreshTokens,
            row.familyId = family ∧ row.revokedAt = none → row.id = id)
        (by
          simp only [Seals, pending]
          exact
            and_congr_right fun _ =>
              ⟨fun reaches row live =>
                  reaches row live.member ⟨live.inFamily, live.unrevoked⟩,
                fun reaches row member live =>
                  reaches row ⟨member, live.1, live.2⟩⟩)
  | some (.refreshTokenRepo (.findByHash _)) =>
      decidable_of_iff
        (¬ Inserting family calls ∧
          Closed family calls.shared.refreshTokens)
        (by simp only [Seals, pending])
  | some (.refreshTokenRepo (.markRevoked _ (some _)))
  | some (.refreshTokenRepo (.findById _))
  | some (.refreshTokenRepo (.insert _))
  | some (.refreshTokenRepo (.revokeFamily _))
  | some (.refreshTokenRepo (.revokeAllForUser _))
  | some (.emailTokenRepo _) | some (.userRepo _) | some (.hashPassword _ _)
  | some (.signAccess _) | none =>
      decidable_of_iff (¬ Inserting family calls)
        (by simp only [Seals, pending, and_true])

instance (calls : Calls Name)
    [decidable : Decidable (∃ name,
      (calls.pending name).bind insertedFamily = some family)] :
    Decidable (Inserting family calls) :=
  decidable

/-- The call is about to look up a token of the family. -/
def Presents (calls : Calls Name) (name : Name) : Prop :=
  ∃ row ∈ calls.shared.refreshTokens, row.familyId = family ∧
    calls.pending name =
      some (.refreshTokenRepo (.findByHash row.tokenHash))

/--
The family has no unrevoked row, and the calls that presented a token of it
after it was closed have returned no token pair.
-/
structure Final (closed calls : Calls Name) : Prop where
  noTip : Closed family calls.shared.refreshTokens
  noRefresh : ∀ name, Presents family closed name →
    ∀ session, (calls.threads name).result? ≠ some (some session)

end Statement

/-! ## Snapshots -/

/-- The row a call has read is still in the table. -/
def Known (rows : List RefreshToken) (current : RefreshToken) : Prop :=
  ∃ row ∈ rows, row.id = current.id ∧ row.familyId = current.familyId ∧
    row.userId = current.userId

/-- There is a row with the id in the family. -/
def Holds (rows : List RefreshToken) (id family : String) : Prop :=
  ∃ row ∈ rows, row.id = id ∧ row.familyId = family

/-- What is known of the rows a call has read. -/
def Grounds (rows : List RefreshToken) : ControlPoint → Prop
  | .checking _ current replacedById _ =>
      Holds rows replacedById current.familyId
  | .inserting _ current _ => Known rows current
  | .marking draws current =>
      Known rows current ∧ Holds rows draws.id current.familyId
  | _ => True

/-- The table is intact and the calls know rows of it. -/
structure Grounded {Name : Type*} (state : AuthState)
    (points : Name → ControlPoint) : Prop where
  intact : Intact state.refreshTokens
  grounds : ∀ name, Grounds state.refreshTokens (points name)

section Snapshots

variable {deps : SessionDeps} {now : Time} {state after : AuthState}
  {point next : ControlPoint} {rows rowsAfter : List RefreshToken}

theorem Known.writes {current : RefreshToken} (known : Known rows current)
    (writes : Writes rows rowsAfter) : Known rowsAfter current := by
  rcases known with ⟨row, member, sameId, sameFamily, sameUser⟩
  rcases writes.later member with ⟨later, laterMember, isLater⟩
  exact
    ⟨later, laterMember, isLater.id.trans sameId,
      isLater.familyId.trans sameFamily, isLater.userId.trans sameUser⟩

theorem Holds.writes {id family : String} (holds : Holds rows id family)
    (writes : Writes rows rowsAfter) : Holds rowsAfter id family := by
  rcases holds with ⟨row, member, sameId, sameFamily⟩
  rcases writes.later member with ⟨later, laterMember, isLater⟩
  exact
    ⟨later, laterMember, isLater.id.trans sameId,
      isLater.familyId.trans sameFamily⟩

theorem Grounds.writes (grounds : Grounds rows point)
    (writes : Writes rows rowsAfter) : Grounds rowsAfter point := by
  cases point with
  | checking draws current replacedById sessionMeta =>
      exact Holds.writes grounds writes
  | inserting draws current sessionMeta => exact Known.writes grounds writes
  | marking draws current =>
      exact ⟨grounds.1.writes writes, grounds.2.writes writes⟩
  | _ => trivial

theorem known_of_mem {current : RefreshToken} (member : current ∈ rows) :
    Known rows current :=
  ⟨current, member, rfl, rfl, rfl⟩

/-- A table whose families are chains is intact. -/
theorem intact_of_linear (linear : Linear tokenLinks rows)
    (uniqueHash : UniqueKey (fun row : RefreshToken => row.tokenHash) rows) :
    Intact rows where
  uniqueId := linear.unique
  uniqueHash := uniqueHash
  sameUser := by
    intro row member other otherMember same
    obtain ⟨root, inFamily, leads⟩ := leadsThrough_of_linear linear member
    have owner := leads.owner row
      ((leads.visits row).mpr ⟨member, inFamily.symm⟩)
    have otherOwner := leads.owner other
      ((leads.visits other).mpr ⟨otherMember, same.symm.trans inFamily.symm⟩)
    exact owner.trans otherOwner.symm
  linked := by
    intro row member id replaced
    obtain ⟨other, stored, sameId, sameFamily, -⟩ :=
      linear.exists_next member replaced
    exact ⟨other, stored, sameId, sameFamily⟩

/--
The tables that sign-ins, refreshes, logouts and password resets reach one after
another are intact, if the ids drawn for families are distinct.
-/
theorem intact_reach {users : List User} {emailTokens : List EmailToken}
    {calls : List (SessionCall × Time)}
    (distinct : (openedFamilies calls).Nodup) :
    Intact ((sessionMachine deps).reach
      (noSessions users emailTokens) calls).refreshTokens :=
  intact_of_linear (linear_reach distinct).2.1
    (uniqueHash_reach deps users emailTokens calls)

/-- An update that keeps the links or cuts them keeps the table intact. -/
theorem Intact.revoked {condition : RefreshToken → Prop}
    [DecidablePred condition] {change : RefreshToken → RefreshToken}
    (intact : Intact rows) (revokes : Revokes change)
    (links : ∀ row ∈ rows, condition row →
      ∀ id ∈ (change row).replacedById, Holds rows id row.familyId) :
    Intact (updateWhere condition change rows) := by
  have writes : Writes rows (updateWhere condition change rows) :=
    .revoked condition revokes
  have identity : ∀ row,
      Later row (if condition row then change row else row) := by
    intro row
    split_ifs
    · exact revokes.later row
    · exact .refl row
  refine
    { uniqueId := writes.uniqueId intact.uniqueId
      uniqueHash := writes.uniqueHash intact.uniqueHash
      sameUser := ?_
      linked := ?_ }
  · intro row member other otherMember sameFamily
    rcases mem_updateWhere.mp member with ⟨old, oldMember, rfl⟩
    rcases mem_updateWhere.mp otherMember with ⟨otherOld, otherOldMember, rfl⟩
    rw [(identity old).familyId, (identity otherOld).familyId] at sameFamily
    rw [(identity old).userId, (identity otherOld).userId]
    exact intact.sameUser old oldMember otherOld otherOldMember sameFamily
  · intro row member id replaced
    rcases mem_updateWhere.mp member with ⟨old, oldMember, rfl⟩
    rw [(identity old).familyId]
    refine Holds.writes ?_ writes
    by_cases selected : condition old
    · rw [if_pos selected] at replaced
      exact links old oldMember selected id replaced
    · rw [if_neg selected] at replaced
      exact intact.linked old oldMember id replaced

/-- A turn keeps the table intact. -/
theorem Intact.moves (intact : Intact state.refreshTokens)
    (grounds : Grounds state.refreshTokens point)
    (moves : Moves deps now state point next after) :
    Intact after.refreshTokens := by
  cases moves with
  | @inserted draws current sessionMeta accepted =>
      rcases insertViolation_eq_none_iff.mp accepted with ⟨newId, newHash, -⟩
      rcases grounds with ⟨row, member, -, sameFamily, sameUser⟩
      refine
        { uniqueId := intact.uniqueId.append newId
          uniqueHash := intact.uniqueHash.append newHash
          sameUser := ?_
          linked := ?_ }
      · have newUser : ∀ other ∈ state.refreshTokens,
            other.familyId = current.familyId →
              other.userId = current.userId := by
          intro other otherMember inFamily
          rw [← sameUser]
          exact
            intact.sameUser other otherMember row member
              (inFamily.trans sameFamily.symm)
        intro left leftMember right rightMember same
        rcases List.mem_append.mp leftMember with oldLeft | newLeft <;>
          rcases List.mem_append.mp rightMember with oldRight | newRight
        · exact intact.sameUser left oldLeft right oldRight same
        · rw [List.mem_singleton.mp newRight] at same ⊢
          exact newUser left oldLeft same
        · rw [List.mem_singleton.mp newLeft] at same ⊢
          exact (newUser right oldRight same.symm).symm
        · rw [List.mem_singleton.mp newLeft, List.mem_singleton.mp newRight]
      · intro other otherMember id replaced
        rcases List.mem_append.mp otherMember with older | newest
        · obtain ⟨target, targetMember, isTarget⟩ :=
            intact.linked other older id replaced
          exact ⟨target, List.mem_append_left _ targetMember, isTarget⟩
        · rw [List.mem_singleton.mp newest] at replaced
          cases replaced
  | @marked draws current =>
      rcases grounds with ⟨⟨known, knownMember, sameId, sameFamily, -⟩, target⟩
      refine intact.revoked (revokes_replace now _) ?_
      intro row member selected id replaced
      have equal : row = known :=
        intact.uniqueId.eq_of_key member knownMember
          (selected.trans sameId.symm)
      rw [equal, sameFamily, ← Option.some.inj replaced]
      exact target
  | familyRevoked replaced =>
      exact intact.revoked (revokes_revoke now)
        fun row member _ => intact.linked row member
  | logoutMarked =>
      refine intact.revoked (revokes_replace now none) ?_
      intro row _ _ id replaced
      cases replaced
  | userRevoked =>
      exact intact.revoked (revokes_revoke now)
        fun row member _ => intact.linked row member
  | _ => exact intact

/-- A turn leads to a point whose rows are known. -/
theorem Grounds.moves (intact : Intact state.refreshTokens)
    (grounds : Grounds state.refreshTokens point)
    (moves : Moves deps now state point next after) :
    Grounds after.refreshTokens next := by
  cases moves with
  | passed found unrevoked unexpired => exact known_of_mem (mem_of_first found)
  | graced found revoked replaced grace =>
      exact intact.linked _ (mem_of_first found) _ replaced
  | replaced found unrevoked unexpired =>
      exact known_of_mem (mem_of_first found)
  | inserted accepted =>
      rcases insertViolation_eq_none_iff.mp accepted with ⟨newId, newHash, -⟩
      exact
        ⟨Known.writes grounds (.appended _ newId newHash),
          _, List.mem_concat_self, rfl, rfl⟩
  | _ => trivial

end Snapshots

/-! ## Closed families -/

/-- A call that is about to insert a row inserts it into another family. -/
def Outside (family : String) : ControlPoint → Prop
  | .inserting _ current _ => current.familyId ≠ family
  | _ => True

/-- A call that presents a token of the family and has not passed. -/
def Barred (deps : SessionDeps) (family : String)
    (rows : List RefreshToken) : ControlPoint → Prop
  | .reading _ rawToken _ =>
      ∃ row ∈ rows, row.tokenHash = deps.hashRefresh rawToken ∧
        row.familyId = family
  | .checking _ current _ _ => current.familyId = family
  | .inserting _ _ _ => False
  | .marking _ _ => False
  | .signing _ _ => False
  | .returned (some _) => False
  | _ => True

/-- The family is closed, and no call will open it again. -/
structure Sealed {Name : Type*} (deps : SessionDeps) (family : String)
    (barred : Name → Prop) (state : AuthState)
    (points : Name → ControlPoint) : Prop where
  grounded : Grounded state points
  closed : Closed family state.refreshTokens
  outside : ∀ name, Outside family (points name)
  barred : ∀ name, barred name →
    Barred deps family state.refreshTokens (points name)

section Closing

variable {deps : SessionDeps} {now : Time} {state after : AuthState}
  {point next : ControlPoint} {rows rowsAfter : List RefreshToken}
  {family : String}

theorem Closed.revoked {condition : RefreshToken → Prop}
    [DecidablePred condition] {change : RefreshToken → RefreshToken}
    (revokes : Revokes change)
    (reaches : ∀ row, Live family rows row → condition row) :
    Closed family (updateWhere condition change rows) := by
  intro row live
  obtain ⟨member, notSelected⟩ :=
    unrevoked_updateWhere revokes live.member live.unrevoked
  exact notSelected (reaches row ⟨member, live.inFamily, live.unrevoked⟩)

/-- No turn opens a closed family. -/
theorem Closed.moves (closed : Closed family state.refreshTokens)
    (outside : Outside family point)
    (moves : Moves deps now state point next after) :
    Closed family after.refreshTokens := by
  have none_live : ∀ {condition : RefreshToken → Prop} row,
      Live family state.refreshTokens row → condition row :=
    fun row live => absurd live (closed row)
  cases moves with
  | inserted accepted =>
      intro row live
      rcases List.mem_append.mp live.member with older | newest
      · exact closed row ⟨older, live.inFamily, live.unrevoked⟩
      · have inFamily := live.inFamily
        rw [List.mem_singleton.mp newest] at inFamily
        exact outside inFamily
  | marked => exact .revoked (revokes_replace now _) none_live
  | familyRevoked replaced => exact .revoked (revokes_revoke now) none_live
  | logoutMarked => exact .revoked (revokes_replace now _) none_live
  | userRevoked => exact .revoked (revokes_revoke now) none_live
  | _ => exact closed

/-- No turn passes a check with a token of a closed family. -/
theorem Outside.moves (closed : Closed family state.refreshTokens)
    (moves : Moves deps now state point next after) :
    Outside family next := by
  cases moves with
  | passed found unrevoked unexpired =>
      exact fun inFamily =>
        closed _ ⟨mem_of_first found, inFamily, unrevoked⟩
  | replaced found unrevoked unexpired =>
      exact fun inFamily =>
        closed _ ⟨mem_of_first found, inFamily, unrevoked⟩
  | _ => trivial

theorem Barred.writes (barred : Barred deps family rows point)
    (writes : Writes rows rowsAfter) :
    Barred deps family rowsAfter point := by
  cases point with
  | reading draws rawToken sessionMeta =>
      rcases barred with ⟨row, member, hash, inFamily⟩
      rcases writes.later member with ⟨later, laterMember, isLater⟩
      exact
        ⟨later, laterMember, isLater.tokenHash.trans hash,
          isLater.familyId.trans inFamily⟩
  | returned result =>
      cases result with
      | none => trivial
      | some session => exact barred
  | _ => exact barred

/-- A call that presents a token of a closed family does not pass. -/
theorem Barred.moves (intact : Intact state.refreshTokens)
    (grounds : Grounds state.refreshTokens point)
    (closed : Closed family state.refreshTokens)
    (barred : Barred deps family state.refreshTokens point)
    (moves : Moves deps now state point next after) :
    Barred deps family after.refreshTokens next := by
  have looked_up : ∀ {rawToken current},
      (∃ row ∈ state.refreshTokens,
        row.tokenHash = deps.hashRefresh rawToken ∧ row.familyId = family) →
      first (fun row => row.tokenHash = deps.hashRefresh rawToken)
          state.refreshTokens = some current →
        current.familyId = family := by
    rintro rawToken current ⟨row, member, hash, inFamily⟩ found
    have equal : current = row :=
      intact.uniqueHash.eq_of_key (mem_of_first found) member
        ((condition_of_first found).trans hash.symm)
    rw [equal]
    exact inFamily
  cases moves with
  | passed found unrevoked unexpired =>
      exact
        closed _ ⟨mem_of_first found, looked_up barred found, unrevoked⟩
  | graced found revoked replaced grace => exact looked_up barred found
  | replaced found unrevoked unexpired =>
      rcases grounds with ⟨row, member, sameId, inFamily⟩
      have equal : _ = row :=
        intact.uniqueId.eq_of_key (mem_of_first found) member
          ((condition_of_first found).trans sameId.symm)
      refine closed _ ⟨mem_of_first found, ?_, unrevoked⟩
      rw [equal, inFamily]
      exact barred
  | inserted => exact barred.elim
  | marked => exact barred.elim
  | signed => exact barred.elim
  | returned => exact barred
  | _ => trivial

end Closing

/-! ## Turns -/

section Turns

variable {Name : Type*} {deps : SessionDeps}
  {family : String} {calls : Calls Name} {label : Name × Time}

/-- The calls stand at control points that know rows of an intact table. -/
def GroundedCalls (deps : SessionDeps) (calls : Calls Name) : Prop :=
  calls.Described (fun _ point => point.program deps) Grounded

/-- The calls stand at control points from which the family stays closed. -/
def SealedCalls (deps : SessionDeps) (family : String)
    (barred : Name → Prop) (calls : Calls Name) : Prop :=
  calls.Described (fun _ point => point.program deps)
    (Sealed deps family barred)

theorem outside_of_not_inserting {points : Name → ControlPoint}
    (stand : calls.threads = fun name => (points name).program deps)
    (notInserting : ¬ Inserting family calls) (name : Name) :
    Outside family (points name) := by
  cases at_ : points name with
  | inserting draws current sessionMeta =>
      intro inFamily
      refine notInserting ⟨name, ?_⟩
      rw [Config.pending, stand]
      simp only [at_]
      exact congrArg some inFamily
  | _ => trivial

/-- The calls that present a token of a sealed family are barred. -/
theorem SealedCalls.bar {barred : Name → Prop}
    (sealed : SealedCalls deps family barred calls) :
    SealedCalls deps family (Presents family calls) calls := by
  rcases sealed with ⟨points, stand, holds⟩
  refine ⟨points, stand, { holds with barred := ?_ }⟩
  rintro name ⟨row, member, inFamily, pending⟩
  rw [Config.pending, stand] at pending
  rcases ControlPoint.of_findByHash pending with
    ⟨draws, rawToken, sessionMeta, reading, hash⟩ | ⟨rawToken, reading⟩
  · rw [reading]
    exact ⟨row, member, hash, inFamily⟩
  · rw [reading]
    trivial

variable [DecidableEq Name]

theorem Grounded.moves {state after : AuthState}
    {points : Name → ControlPoint} {name : Name} {next : ControlPoint}
    {now : Time} (grounded : Grounded state points)
    (moves : Moves deps now state (points name) next after) :
    Grounded after (Function.update points name next) where
  intact := grounded.intact.moves (grounded.grounds name) moves
  grounds :=
    (Function.forall_update_iff points fun _ point =>
      Grounds after.refreshTokens point).mpr
        ⟨(grounded.grounds name).moves grounded.intact moves,
          fun other _ => (grounded.grounds other).writes moves.writes⟩

theorem GroundedCalls.turn (grounded : GroundedCalls deps calls) :
    GroundedCalls deps (ControlPoints.turn deps calls label) := by
  refine Config.described_advance ?_ grounded
  intro points stand holds
  obtain ⟨next, after, resumed, moves⟩ :=
    resume_moves deps label.2 calls.shared (points label.1)
  exact ⟨next, after, resumed, holds.moves moves⟩

/-- Once closed, a family stays closed. -/
theorem SealedCalls.turn {barred : Name → Prop}
    (sealed : SealedCalls deps family barred calls) :
    SealedCalls deps family barred (ControlPoints.turn deps calls label) := by
  refine Config.described_advance ?_ sealed
  intro points stand holds
  obtain ⟨next, after, resumed, moves⟩ :=
    resume_moves deps label.2 calls.shared (points label.1)
  refine
    ⟨next, after, resumed,
      { grounded := holds.grounded.moves moves
        closed := holds.closed.moves (holds.outside label.1) moves
        outside := ?_
        barred := ?_ }⟩
  · refine (Function.forall_update_iff points fun _ point =>
      Outside family point).mpr ⟨?_, fun other _ => holds.outside other⟩
    exact Outside.moves holds.closed moves
  · refine (Function.forall_update_iff points fun other point =>
      barred other → Barred deps family after.refreshTokens point).mpr
        ⟨?_, ?_⟩
    · intro isBarred
      exact
        (holds.barred _ isBarred).moves holds.grounded.intact
          (holds.grounded.grounds _) holds.closed moves
    · intro other _ isBarred
      exact (holds.barred other isBarred).writes moves.writes

/-- An update that closes the family seals it. -/
theorem sealed_of_update {op : AuthOp} {answer : op.Answer}
    {after : AuthState} (grounded : GroundedCalls deps calls)
    (notInserting : ¬ Inserting family calls)
    (pending : calls.pending label.1 = some op)
    (notLookup : ∀ key,
      op ≠ .refreshTokenRepo (.findByHash key) ∧
        op ≠ .refreshTokenRepo (.findById key))
    (answered :
      authAdapter deps.toAuthServices op label.2 calls.shared =
        .ok (answer, after))
    (closed : Closed family after.refreshTokens) :
    SealedCalls deps family (fun _ => False)
      (ControlPoints.turn deps calls label) := by
  refine Config.described_advance ?_ grounded
  intro points stand holds
  obtain ⟨next, nextState, resumed, moves⟩ :=
    resume_moves deps label.2 calls.shared (points label.1)
  have stands : ((points label.1).program deps).pending = some op := by
    rw [← pending, Config.pending, stand]
  have sameState : nextState = after := by
    rcases Program.pending_eq_some_iff.mp stands with ⟨rest, isCall⟩
    rw [isCall, Program.resume_call_ok rest answered] at resumed
    exact (congrArg Prod.snd resumed).symm
  subst sameState
  refine
    ⟨next, nextState, resumed,
      { grounded := holds.moves moves
        closed := closed
        outside := ?_
        barred := fun _ => False.elim }⟩
  intro other
  by_cases same : other = label.1
  · subst same
    rw [Function.update_self]
    cases next with
    | inserting draws current sessionMeta =>
        rcases moves.lookup_of_inserting with ⟨hash, lookup⟩ | ⟨id, lookup⟩
        · rw [stands] at lookup
          exact absurd (Option.some.inj lookup) (notLookup hash).1
        · rw [stands] at lookup
          exact absurd (Option.some.inj lookup) (notLookup id).2
    | _ => trivial
  · rw [Function.update_of_ne same]
    exact outside_of_not_inserting stand notInserting other

/-- A closing turn that seals leaves the family sealed. -/
theorem sealed_of_closes {call : Name → OverlappingCall}
    (grounded : GroundedCalls deps calls)
    (closes : Closes call family calls label)
    (seals : Seals family calls label) :
    SealedCalls deps family (fun _ => False)
      (ControlPoints.turn deps calls label) := by
  rcases seals with ⟨notInserting, reaches⟩
  rw [Closes] at closes
  split at closes
  · rename_i revoked pending
    subst closes
    refine
      sealed_of_update grounded notInserting pending (fun _ => by simp)
        (authAdapter_revokeFamily _) (Closed.revoked (revokes_revoke _) ?_)
    exact fun row live => ⟨live.inFamily, live.unrevoked⟩
  · rename_i user pending
    rcases closes with ⟨known, member, inFamily, ofUser⟩
    refine
      sealed_of_update grounded notInserting pending (fun _ => by simp)
        (authAdapter_revokeAllForUser _) (Closed.revoked (revokes_revoke _) ?_)
    intro row live
    rcases grounded with ⟨points, -, holds⟩
    refine ⟨?_, live.unrevoked⟩
    rw [← ofUser]
    exact
      holds.intact.sameUser row live.member known member
        (live.inFamily.trans inFamily.symm)
  · rename_i id pending
    rw [pending] at reaches
    exact
      sealed_of_update grounded notInserting pending (fun _ => by simp)
        (authAdapter_markRevoked (references_none _))
        (Closed.revoked (revokes_replace _ _) reaches)
  · rename_i hash pending
    rw [pending] at reaches
    refine SealedCalls.turn ?_
    rcases grounded with ⟨points, stand, holds⟩
    exact
      ⟨points, stand,
        { grounded := holds
          closed := reaches
          outside := outside_of_not_inserting stand notInserting
          barred := fun _ => False.elim }⟩
  · exact closes.elim

end Turns

/-! ## Runs -/

section Runs

variable {Name : Type*} {deps : SessionDeps} {family : String}
  {call : Name → OverlappingCall} {state : AuthState}
  {schedule : List (Name × Time)} {revoker : Name}

theorem started_threads (deps : SessionDeps)
    (call : Name → OverlappingCall) (state : AuthState) :
    (started deps call state).threads =
      fun name => (ControlPoint.start (call name)).program deps := by
  funext name
  exact (ControlPoint.program_start deps (call name)).symm

theorem grounded_start (intact : Intact state.refreshTokens) :
    Grounded state fun name => ControlPoint.start (call name) where
  intact := intact
  grounds := by
    intro name
    cases call name <;> trivial

/-- A sealed family has the final property. -/
theorem SealedCalls.final {closed calls : Calls Name}
    (sealed : SealedCalls deps family (Presents family closed) calls) :
    Final family closed calls := by
  rcases sealed with ⟨points, stand, holds⟩
  refine ⟨holds.closed, ?_⟩
  intro name presents session result
  have barred := holds.barred name presents
  rw [stand] at result
  rw [ControlPoint.returned_of_result result] at barred
  exact barred

/-- The logout has not yet disposed of the family. -/
structure LogoutOpen (deps : SessionDeps) (family rawToken : String)
    (revoker : Name) (state : AuthState)
    (points : Name → ControlPoint) : Prop where
  grounded : Grounded state points
  presented : ∃ row ∈ state.refreshTokens,
    row.tokenHash = deps.hashRefresh rawToken ∧ row.familyId = family
  stands : points revoker = .logoutReading rawToken ∨
    ∃ token, points revoker = .logoutMarking token ∧
      Holds state.refreshTokens token.id family

variable [DecidableEq Name]

/-- Unless a turn of the logout closes the family, the logout goes on. -/
theorem logoutOpen_turn {rawToken : String}
    (isLogout : call revoker = .logout rawToken) (calls : Calls Name)
    (label : Name × Time)
    (goesOn : calls.Described (fun _ point => point.program deps)
      (LogoutOpen deps family rawToken revoker))
    (notCloses : ¬ (label.1 = revoker ∧ Closes call family calls label)) :
    (ControlPoints.turn deps calls label).Described
      (fun _ point => point.program deps)
      (LogoutOpen deps family rawToken revoker) := by
  refine Config.described_advance ?_ goesOn
  intro points stand holds
  obtain ⟨next, after, resumed, moves⟩ :=
    resume_moves deps label.2 calls.shared (points label.1)
  refine
    ⟨next, after, resumed,
      { grounded := holds.grounded.moves moves
        presented := ?_
        stands := ?_ }⟩
  · rcases holds.presented with ⟨row, member, hash, inFamily⟩
    rcases moves.writes.later member with ⟨later, laterMember, isLater⟩
    exact
      ⟨later, laterMember, isLater.tokenHash.trans hash,
        isLater.familyId.trans inFamily⟩
  · by_cases same : revoker = label.1
    · subst same
      rw [Function.update_self]
      have pending :
          calls.pending label.1 =
            ((points label.1).program deps).pending := by
        rw [Config.pending, stand]
      rcases holds.stands with reading | ⟨token, marking, held⟩
      · rw [reading] at moves pending
        rcases holds.presented with ⟨row, member, hash, inFamily⟩
        cases moves with
        | logoutUnknown notFound =>
            exact absurd hash (first_eq_none_iff.mp notFound row member)
        | @logoutPassed _ token found unrevoked =>
            have equal : token = row :=
              holds.grounded.intact.uniqueHash.eq_of_key
                (mem_of_first found) member
                ((condition_of_first found).trans hash.symm)
            exact
              .inr ⟨token, rfl, row, member, by rw [equal], inFamily⟩
        | @logoutIdle _ token found revoked =>
            have equal : token = row :=
              holds.grounded.intact.uniqueHash.eq_of_key
                (mem_of_first found) member
                ((condition_of_first found).trans hash.symm)
            refine absurd ⟨rfl, ?_⟩ notCloses
            simp only [Closes, pending]
            exact
              ⟨by rw [isLogout]; rfl, token, found, by rw [equal, inFamily],
                revoked⟩
      · rw [marking] at pending
        refine absurd ⟨rfl, ?_⟩ notCloses
        simp only [Closes, pending]
        exact held
    · rw [Function.update_of_ne same]
      rcases holds.stands with reading | ⟨token, marking, held⟩
      · exact .inl reading
      · exact .inr ⟨token, marking, held.writes moves.writes⟩

/-- A logout of a token of the family takes a closing turn before it ends. -/
theorem logout_closes {rawToken : String}
    (intact : Intact state.refreshTokens)
    (isLogout : call revoker = .logout rawToken)
    (presented : ∃ row ∈ state.refreshTokens,
      row.tokenHash = deps.hashRefresh rawToken ∧ row.familyId = family)
    (finished :
      ((run (turn deps) (started deps call state) schedule).threads
        revoker).Finished) :
    Occurs (turn deps)
      (fun calls label => label.1 = revoker ∧ Closes call family calls label)
      (started deps call state) schedule := by
  have start :
      (started deps call state).Described
        (fun _ point => point.program deps)
        (LogoutOpen deps family rawToken revoker) :=
    ⟨_, started_threads deps call state, grounded_start intact, presented,
      .inl (by rw [isLogout]; rfl)⟩
  rcases occurs_or_invariant (logoutOpen_turn isLogout) start schedule with
    occurs | ⟨points, stand, holds⟩
  · exact occurs
  · rw [stand] at finished
    rcases holds.stands with reading | ⟨token, marking, -⟩
    · simp only [reading] at finished
      cases finished
    · simp only [marking] at finished
      cases finished

/-- The table has a later version of the row. -/
def Kept (row : RefreshToken) (state : AuthState)
    (_ : Name → ControlPoint) : Prop :=
  ∃ later ∈ state.refreshTokens, Later row later

/-- A row of the first table has a later version in every later one. -/
theorem later_run {row : RefreshToken} (member : row ∈ state.refreshTokens) :
    ∃ later ∈ (run (turn deps) (started deps call state)
        schedule).shared.refreshTokens,
      Later row later := by
  have start :
      (started deps call state).Described
        (fun _ point => point.program deps) (Kept row) :=
    ⟨_, started_threads deps call state, row, member, .refl row⟩
  have preserved : ∀ (calls : Calls Name) label,
      calls.Described (fun _ point => point.program deps) (Kept row) →
        (ControlPoints.turn deps calls label).Described
          (fun _ point => point.program deps) (Kept row) := by
    intro calls label described
    refine Config.described_advance ?_ described
    rintro points stand ⟨later, laterMember, isLater⟩
    obtain ⟨next, after, resumed, moves⟩ :=
      resume_moves deps label.2 calls.shared (points label.1)
    rcases moves.writes.later laterMember with ⟨last, lastMember, isLast⟩
    exact ⟨next, after, resumed, last, lastMember, isLater.trans isLast⟩
  rcases run_invariant preserved start schedule with ⟨points, -, persists⟩
  exact persists

/-- A call that disposes of the family takes a closing turn. -/
theorem disposes_closes (intact : Intact state.refreshTokens)
    (disposes : Disposes call family deps state schedule revoker) :
    Occurs (turn deps)
      (fun calls label => label.1 = revoker ∧ Closes call family calls label)
      (started deps call state) schedule := by
  rw [Disposes] at disposes
  split at disposes
  · rename_i rawToken isLogout
    exact logout_closes intact isLogout disposes.2 disposes.1
  · rcases disposes with ⟨before, label, after, split, rfl, pending⟩
    refine ⟨before, label, after, split, rfl, ?_⟩
    simp only [Closes, pending]
  · obtain ⟨row, member, inFamily, before, label, after, split, rfl,
      pending⟩ := disposes
    refine ⟨before, label, after, split, rfl, ?_⟩
    obtain ⟨later, laterMember, isLater⟩ :
        ∃ later ∈ (run (turn deps) (started deps call state)
            before).shared.refreshTokens,
          Later row later :=
      later_run member
    simp only [Closes, pending]
    exact
      ⟨later, laterMember, isLater.familyId.trans inFamily, isLater.userId⟩

/--
If no closing turn of a revoking call lets a row of the family escape, and the
call disposes of the family, then it does so for good: from some turn of that
call on, the family has no unrevoked row in any state of the run, and a refresh
that presents a token of it returns nothing.
-/
theorem revocation_final (intact : Intact state.refreshTokens)
    (sealing :
      Along (turn deps)
        (fun calls label => label.1 = revoker →
          Closes call family calls label → Seals family calls label)
        (started deps call state) schedule)
    (disposes : Disposes call family deps state schedule revoker) :
    ∃ before label after,
      schedule = before ++ label :: after ∧ label.1 = revoker ∧
        Throughout (turn deps)
          (Final family
            (run (turn deps) (started deps call state) (before ++ [label])))
          (run (turn deps) (started deps call state) (before ++ [label]))
          after := by
  obtain ⟨before, label, after, rfl, isRevoker, closes⟩ :=
    disposes_closes intact disposes
  refine ⟨before, label, after, rfl, isRevoker, ?_⟩
  have grounded :
      GroundedCalls deps
        (run (turn deps) (started deps call state) before) :=
    run_invariant (fun _ _ grounded => grounded.turn)
      ⟨_, started_threads deps call state, grounded_start intact⟩ before
  have sealed :=
    sealed_of_closes grounded closes (sealing.at_step isRevoker closes)
  rw [← run_concat (turn deps)] at sealed
  have throughout :
      Throughout (turn deps)
        (SealedCalls deps family
          (Presents family
            (run (turn deps) (started deps call state) (before ++ [label]))))
        (run (turn deps) (started deps call state) (before ++ [label]))
        after :=
    throughout_of_invariant (fun _ _ sealed => sealed.turn) sealed.bar after
  exact throughout.imp fun _ sealed => sealed.final

end Runs

/-! ## A logout and a refresh -/

/-- A refresh and a logout with the token of a login. -/
def refreshAndLogout : Bool → OverlappingCall
  | false => .refresh (sampleDraws 1000 "1") "raw-0" none
  | true => .logout "raw-0"

theorem intact_sampleState : Intact (sampleState 0).refreshTokens where
  uniqueId := List.pairwise_singleton _ _
  uniqueHash := List.pairwise_singleton _ _
  sameUser := by decide
  linked := by decide

/-- The logout first: the refresh returns nothing. -/
theorem revocation_final_logoutFirst :
    ∃ before label after,
      [(true, 1), (true, 2), (false, 3), (false, 4)] =
          before ++ label :: after ∧
        label.1 = true ∧
        Throughout (turn (sampleDeps 0))
          (Final "family-0"
            (run (turn (sampleDeps 0))
              (started (sampleDeps 0) refreshAndLogout (sampleState 0))
              (before ++ [label])))
          (run (turn (sampleDeps 0))
            (started (sampleDeps 0) refreshAndLogout (sampleState 0))
            (before ++ [label]))
          after :=
  revocation_final intact_sampleState (by decide) ⟨by decide, by decide⟩

/-- The logout between the refresh's check and its insertion. -/
theorem revocation_not_final :
    Intact (sampleState 0).refreshTokens ∧
      Disposes refreshAndLogout "family-0" (sampleDeps 0) (sampleState 0)
          [(false, 1), (true, 1), (true, 2), (false, 3), (false, 4),
            (false, 5)] true ∧
        ¬ Closed "family-0"
          (run (turn (sampleDeps 0))
            (started (sampleDeps 0) refreshAndLogout (sampleState 0))
            [(false, 1), (true, 1), (true, 2), (false, 3), (false, 4),
              (false, 5)]).shared.refreshTokens := by
  refine ⟨intact_sampleState, ⟨?_, ?_⟩, ?_⟩ <;> decide

end ChatBackend.Auth.RevocationFinality
