import ChatBackend.Auth.SessionLedger
import Mathlib.Data.Set.Function

/-!
# The refresh token table refines the ledger of sessions

`sessionMachine` runs calls one after another on the account tables.  With the
grace window closed it answers every call as the ledger does, and the table
represents the ledger: in every family the row of the current token is the only
one that may be unrevoked, it is unrevoked exactly while the family is alive,
and `replaced_by_id` is set exactly on the rows that were rotated.

The assumptions are those under which ids and tokens identify rows: the ids and
the raw tokens drawn along the run are distinct, the hash is injective on the
raw tokens that occur, and sessions are opened for stored users.
-/

namespace ChatBackend.Auth.SessionRefinement

open Effects
open Relational
open ChatBackend.Auth.TokenStore
open ChatBackend.Auth.TokenStore.PgRefreshTokenRepository
open ChatBackend.Auth.Sessions
open ChatBackend.Auth.SessionLedger

/-- The calls on the account tables, each run to its end. -/
def sessionMachine (deps : SessionDeps) :
    Transition.Machine AuthState (SessionCall × Time)
      (Except Failure (Option Session)) where
  step := fun state (call, now) =>
    (call.program deps).run (authAdapter deps.toAuthServices) now state

/-! ## What the calls do on the table -/

section Calls

variable {deps : SessionDeps} {now : Time} {state : AuthState}
  {draws : SessionDraws} {sessionMeta : Option SessionMeta}

/-- The table after a rotation. -/
def rotatedRows (deps : SessionDeps) (draws : SessionDraws)
    (current : RefreshToken) (sessionMeta : Option SessionMeta) (now : Time)
    (rows : List RefreshToken) : List RefreshToken :=
  updateWhere (fun row => row.id = current.id) (replace now (some draws.id))
    (rows ++
      [(RefreshSession.successor deps draws current sessionMeta).insertedAt now])

/-- The table after a family has been revoked. -/
def familyRevoked (familyId : String) (now : Time)
    (rows : List RefreshToken) : List RefreshToken :=
  updateWhere (fun row => row.familyId = familyId ∧ row.revokedAt = none)
    (revoke now) rows

theorem run_createSession {userId : String}
    (accepted :
      insertViolation state.users state.refreshTokens
        (rootToken deps draws userId sessionMeta) = none) :
    (createSession deps draws userId sessionMeta).run
        (authAdapter deps.toAuthServices) now state =
      (.ok (Ledger.session deps draws userId now),
        { state with
          refreshTokens :=
            state.refreshTokens ++
              [(rootToken deps draws userId sessionMeta).insertedAt now] }) := by
  rw [createSession, refreshTokenRepo.insert, Program.perform_bind,
    Program.run_call_ok _ (authAdapter_insert accepted)]
  rfl

theorem run_rotateToken {current : RefreshToken}
    (accepted :
      insertViolation state.users state.refreshTokens
        (RefreshSession.successor deps draws current sessionMeta) = none) :
    (RefreshSession.rotateToken deps draws current sessionMeta).run
        (authAdapter deps.toAuthServices) now state =
      (.ok (Ledger.session deps draws current.userId now),
        { state with
          refreshTokens :=
            rotatedRows deps draws current sessionMeta now
              state.refreshTokens }) := by
  have inserted :
      References
        (state.refreshTokens ++
          [(RefreshSession.successor deps draws current sessionMeta).insertedAt now])
        (some draws.id) :=
    references_some_iff.mpr ⟨_, List.mem_concat_self, rfl⟩
  rw [RefreshSession.rotateToken, refreshTokenRepo.insert,
    Program.perform_bind, Program.run_call_ok _ (authAdapter_insert accepted),
    refreshTokenRepo.markRevoked, Program.perform_bind,
    Program.run_call_ok _ (authAdapter_markRevoked inserted)]
  rfl

theorem run_execute (rawToken : String) :
    (RefreshSession.execute deps draws rawToken sessionMeta).run
        (authAdapter deps.toAuthServices) now state =
      (RefreshSession.lookedUp deps draws sessionMeta
        (first (fun row => row.tokenHash = deps.hashRefresh rawToken)
          state.refreshTokens)).run
        (authAdapter deps.toAuthServices) now state := by
  rw [RefreshSession.execute, refreshTokenRepo.findByHash,
    Program.perform_bind,
    Program.run_call_ok _ (authAdapter_findByHash _)]

/-- With the grace window closed, a revoked token is refused. -/
theorem run_replayed {current : RefreshToken} {revokedAt : Time}
    (noGrace : deps.graceWindowSec = 0) :
    (RefreshSession.replayed deps draws current revokedAt sessionMeta).run
        (authAdapter deps.toAuthServices) now state =
      (.error (.authError "Invalid refresh token"),
        if current.replacedById = none then state
        else
          { state with
            refreshTokens :=
              familyRevoked current.familyId now state.refreshTokens }) := by
  have refused :
      RefreshSession.replayed deps draws current revokedAt sessionMeta =
        RefreshSession.refuse current := by
    cases replaced : current.replacedById with
    | none => simp only [RefreshSession.replayed, replaced]
    | some id => simp [RefreshSession.replayed, replaced, noGrace]
  rw [refused]
  cases replaced : current.replacedById with
  | none =>
      simp only [RefreshSession.refuse, replaced, if_true]
      rfl
  | some id =>
      simp only [RefreshSession.refuse, replaced, reduceCtorEq, if_false]
      rfl

theorem run_revoke (rawToken : String) :
    (RevokeSession.execute deps rawToken).run
        (authAdapter deps.toAuthServices) now state =
      match first (fun row => row.tokenHash = deps.hashRefresh rawToken)
          state.refreshTokens with
      | none => (.ok (), state)
      | some token =>
          (.ok (),
            if token.revokedAt = none then
              { state with
                refreshTokens :=
                  updateWhere (fun row => row.id = token.id)
                    (replace now none) state.refreshTokens }
            else state) := by
  rw [RevokeSession.execute, refreshTokenRepo.findByHash,
    Program.perform_bind,
    Program.run_call_ok _ (authAdapter_findByHash _)]
  cases first (fun row => row.tokenHash = deps.hashRefresh rawToken)
      state.refreshTokens with
  | none => rfl
  | some token =>
      cases revoked : token.revokedAt with
      | some at_ => simp only [RevokeSession.lookedUp, revoked]; rfl
      | none =>
          simp only [RevokeSession.lookedUp, revoked, if_true]
          exact Program.run_perform_ok
            (authAdapter_markRevoked (references_none _))

end Calls

/-! ## The representation -/

/-- The row stores the raw token, in the state the ledger gives its family. -/
structure Stores (deps : SessionDeps) (ledger : Ledger) (row : RefreshToken)
    (raw : String) (family : Family) : Prop where
  hash : row.tokenHash = deps.hashRefresh raw
  issued : ledger.issuedTo raw = some row.familyId
  known : ledger.families row.familyId = some family
  user : row.userId = family.user
  tip : raw = family.current →
    row.expiresAt = family.expiresAt ∧ row.replacedById = none ∧
      (row.revokedAt = none ↔ family.alive = true)
  rotated : raw ≠ family.current →
    row.revokedAt ≠ none ∧ row.replacedById ≠ none

/-- The ids drawn along a history. -/
def drawnIds (history : List (SessionCall × Time)) : List String :=
  history.flatMap fun call => call.1.drawnIds

/-- The raw tokens drawn along a history. -/
def drawnRaws (history : List (SessionCall × Time)) : List String :=
  history.flatMap fun call => call.1.drawnRaws

/-- The raw tokens hashed along a history. -/
def usedRaws (history : List (SessionCall × Time)) : List String :=
  history.flatMap fun call => call.1.usedRaws

/-- The table represents the ledger after a history of calls. -/
structure Represents (deps : SessionDeps) (users : List User)
    (history : List (SessionCall × Time)) (state : AuthState)
    (ledger : Ledger) : Prop where
  sameUsers : state.users = users
  uniqueId : UniqueKey (fun row => row.id) state.refreshTokens
  uniqueHash : UniqueKey (fun row => row.tokenHash) state.refreshTokens
  owner : ∀ row ∈ state.refreshTokens, ∃ user ∈ users, user.id = row.userId
  stores : ∀ row ∈ state.refreshTokens, ∃ raw family,
    Stores deps ledger row raw family
  stored : ∀ raw id, ledger.issuedTo raw = some id →
    ∃ row ∈ state.refreshTokens, row.tokenHash = deps.hashRefresh raw
  currentIssued : ∀ id family, ledger.families id = some family →
    ledger.issuedTo family.current = some id
  drawnRow : ∀ row ∈ state.refreshTokens, row.id ∈ drawnIds history
  drawnFamily : ∀ id family, ledger.families id = some family →
    id ∈ drawnIds history
  drawnRaw : ∀ raw id, ledger.issuedTo raw = some id →
    raw ∈ drawnRaws history

/--
The draws of a history identify: ids and raw tokens are drawn once, the hash is
injective on the raw tokens that occur, and sessions are opened for stored
users.
-/
structure Fresh (deps : SessionDeps) (users : List User)
    (history : List (SessionCall × Time)) : Prop where
  ids : (drawnIds history).Nodup
  raws : (drawnRaws history).Nodup
  hash : Set.InjOn deps.hashRefresh { raw | raw ∈ usedRaws history }
  owners : ∀ call ∈ history, ∀ user ∈ call.1.opensFor,
    ∃ stored ∈ users, stored.id = user

theorem drawnIds_concat
    (history : List (SessionCall × Time)) (call : SessionCall × Time) :
    drawnIds (history ++ [call]) = drawnIds history ++ call.1.drawnIds := by
  simp [drawnIds]

theorem drawnRaws_concat
    (history : List (SessionCall × Time)) (call : SessionCall × Time) :
    drawnRaws (history ++ [call]) =
      drawnRaws history ++ call.1.drawnRaws := by
  simp [drawnRaws]

theorem usedRaws_concat
    (history : List (SessionCall × Time)) (call : SessionCall × Time) :
    usedRaws (history ++ [call]) = usedRaws history ++ call.1.usedRaws := by
  simp [usedRaws]

theorem SessionCall.drawnRaws_subset_usedRaws (call : SessionCall) :
    call.drawnRaws ⊆ call.usedRaws := by
  cases call <;> simp [SessionCall.drawnRaws, SessionCall.usedRaws]

theorem drawnRaws_subset_usedRaws (history : List (SessionCall × Time)) :
    drawnRaws history ⊆ usedRaws history := by
  intro raw member
  rcases List.mem_flatMap.mp member with ⟨call, called, drawn⟩
  exact
    List.mem_flatMap.mpr
      ⟨call, called, SessionCall.drawnRaws_subset_usedRaws call.1 drawn⟩

section Histories

variable {deps : SessionDeps} {users : List User}
  {history : List (SessionCall × Time)} {call : SessionCall × Time}

theorem Fresh.initial (fresh : Fresh deps users (history ++ [call])) :
    Fresh deps users history where
  ids := (List.nodup_append.mp (drawnIds_concat history call ▸ fresh.ids)).1
  raws :=
    (List.nodup_append.mp (drawnRaws_concat history call ▸ fresh.raws)).1
  hash := fresh.hash.mono fun raw member => by
    rw [Set.mem_ofPred_eq, usedRaws_concat]
    exact List.mem_append_left _ member
  owners := fun other member =>
    fresh.owners other (List.mem_append_left _ member)

theorem Fresh.of_append {before after : List (SessionCall × Time)}
    (fresh : Fresh deps users (before ++ after)) :
    Fresh deps users before := by
  induction after using List.reverseRecOn with
  | nil => rwa [List.append_nil] at fresh
  | append_singleton rest call induction =>
      rw [← List.append_assoc] at fresh
      exact induction fresh.initial

/-- An id drawn along the first part of a history is not drawn afterwards. -/
theorem Fresh.not_drawn_after {before after : List (SessionCall × Time)}
    (fresh : Fresh deps users (before ++ after)) {id : String}
    (drawn : id ∈ drawnIds before) : id ∉ drawnIds after := by
  have ids := fresh.ids
  rw [drawnIds, List.flatMap_append] at ids
  intro again
  exact (List.nodup_append.mp ids).2.2 id drawn id again rfl

/-- A hash identifies the raw token drawn along a history. -/
theorem Fresh.drawn_eq (fresh : Fresh deps users history)
    {raw other : String} (drawn : raw ∈ drawnRaws history)
    (otherDrawn : other ∈ drawnRaws history)
    (same : deps.hashRefresh raw = deps.hashRefresh other) : raw = other :=
  fresh.hash (drawnRaws_subset_usedRaws history drawn)
    (drawnRaws_subset_usedRaws history otherDrawn) same

theorem Fresh.id_not_drawn (fresh : Fresh deps users (history ++ [call]))
    {id : String} (drawn : id ∈ call.1.drawnIds) :
    id ∉ drawnIds history := by
  intro earlier
  have distinct :=
    (List.nodup_append.mp (drawnIds_concat history call ▸ fresh.ids)).2.2
  exact distinct id earlier id drawn rfl

theorem Fresh.raw_not_drawn (fresh : Fresh deps users (history ++ [call]))
    {raw : String} (drawn : raw ∈ call.1.drawnRaws) :
    raw ∉ drawnRaws history := by
  intro earlier
  have distinct :=
    (List.nodup_append.mp (drawnRaws_concat history call ▸ fresh.raws)).2.2
  exact distinct raw earlier raw drawn rfl

/-- A hash that occurs in the next call identifies an earlier token. -/
theorem Fresh.raw_eq (fresh : Fresh deps users (history ++ [call]))
    {raw other : String} (earlier : raw ∈ drawnRaws history)
    (used : other ∈ call.1.usedRaws)
    (same : deps.hashRefresh raw = deps.hashRefresh other) :
    raw = other := by
  refine fresh.hash ?_ ?_ same
  · rw [Set.mem_ofPred_eq, usedRaws_concat]
    exact
      List.mem_append_left _ (drawnRaws_subset_usedRaws history earlier)
  · rw [Set.mem_ofPred_eq, usedRaws_concat]
    exact List.mem_append_right _ used

end Histories

/-! ## Lookups -/

theorem Ledger.familyOf_eq_some_iff {ledger : Ledger} {raw id : String}
    {family : Family} :
    ledger.familyOf raw = some (id, family) ↔
      ledger.issuedTo raw = some id ∧ ledger.families id = some family := by
  simp only [Ledger.familyOf, Option.bind_eq_some_iff,
    Option.map_eq_some_iff, Prod.mk.injEq]
  constructor
  · rintro ⟨_, issued, _, known, rfl, rfl⟩
    exact ⟨issued, known⟩
  · rintro ⟨issued, known⟩
    exact ⟨id, issued, family, known, rfl, rfl⟩

section Lookups

variable {deps : SessionDeps} {users : List User}
  {history : List (SessionCall × Time)} {call : SessionCall × Time}
  {state : AuthState} {ledger : Ledger} {raw : String}

/-- A token no family was issued is not in the table. -/
theorem Represents.lookup_none
    (represents : Represents deps users history state ledger)
    (fresh : Fresh deps users (history ++ [call]))
    (used : raw ∈ call.1.usedRaws) (unknown : ledger.familyOf raw = none) :
    first (fun row => row.tokenHash = deps.hashRefresh raw)
      state.refreshTokens = none := by
  refine first_eq_none_iff.mpr ?_
  intro row member same
  rcases represents.stores row member with ⟨other, family, stores⟩
  have equal : other = raw :=
    fresh.raw_eq (represents.drawnRaw other _ stores.issued) used
      (stores.hash.symm.trans same)
  subst equal
  have known := Ledger.familyOf_eq_some_iff.mpr ⟨stores.issued, stores.known⟩
  rw [unknown] at known
  cases known

/-- A token issued to a family is found, in the state the ledger gives it. -/
theorem Represents.lookup_some
    (represents : Represents deps users history state ledger)
    (fresh : Fresh deps users (history ++ [call]))
    (used : raw ∈ call.1.usedRaws) {id : String} {family : Family}
    (owned : ledger.familyOf raw = some (id, family)) :
    ∃ row ∈ state.refreshTokens,
      first (fun row => row.tokenHash = deps.hashRefresh raw)
          state.refreshTokens = some row ∧
        row.familyId = id ∧ Stores deps ledger row raw family := by
  rcases Ledger.familyOf_eq_some_iff.mp owned with ⟨issued, known⟩
  rcases represents.stored raw id issued with ⟨row, member, hash⟩
  rcases represents.stores row member with ⟨other, otherFamily, stores⟩
  have equal : other = raw :=
    fresh.raw_eq (represents.drawnRaw other _ stores.issued) used
      (stores.hash.symm.trans hash)
  subst equal
  have sameId : row.familyId = id :=
    Option.some.inj (stores.issued.symm.trans issued)
  have sameFamily : otherFamily = family :=
    Option.some.inj (stores.known.symm.trans (sameId ▸ known))
  subst sameFamily
  have found := represents.uniqueHash.first_eq_some member
  rw [hash] at found
  exact ⟨row, member, found, sameId, stores⟩

/-- Two rows that store the same raw token are the same row. -/
theorem Represents.row_eq
    (represents : Represents deps users history state ledger)
    {row other : RefreshToken} {family otherFamily : Family}
    (member : row ∈ state.refreshTokens)
    (otherMember : other ∈ state.refreshTokens)
    (stores : Stores deps ledger row raw family)
    (otherStores : Stores deps ledger other raw otherFamily) :
    row = other :=
  represents.uniqueHash.eq_of_key member otherMember
    (stores.hash.trans otherStores.hash.symm)

/-- A dead family has no unrevoked row. -/
theorem Represents.revoked_of_dead
    (represents : Represents deps users history state ledger)
    {id : String} (dead : ledger.Dead id)
    {row : RefreshToken} (member : row ∈ state.refreshTokens)
    (inFamily : row.familyId = id) : row.revokedAt ≠ none := by
  rcases dead with ⟨known, found, notAlive⟩
  rcases represents.stores row member with ⟨raw, family, stores⟩
  have sameFamily : family = known :=
    Option.some.inj (stores.known.symm.trans (inFamily ▸ found))
  subst sameFamily
  by_cases current : raw = family.current
  · intro unrevoked
    rw [(stores.tip current).2.2.mp unrevoked] at notAlive
    exact Bool.noConfusion notAlive
  · exact (stores.rotated current).1

end Lookups

/-! ## Revocations -/

section Revocations

variable {deps : SessionDeps} {users : List User}
  {history : List (SessionCall × Time)} {call : SessionCall × Time}
  {state : AuthState} {ledger : Ledger}

/-- The representation does not depend on calls that draw nothing new. -/
theorem Represents.later
    (represents : Represents deps users history state ledger)
    (call : SessionCall × Time) :
    Represents deps users (history ++ [call]) state ledger :=
  { represents with
    drawnRow := fun row member => by
      rw [drawnIds_concat]
      exact List.mem_append_left _ (represents.drawnRow row member)
    drawnFamily := fun id family known => by
      rw [drawnIds_concat]
      exact
        List.mem_append_left _ (represents.drawnFamily id family known)
    drawnRaw := fun raw id issued => by
      rw [drawnRaws_concat]
      exact List.mem_append_left _ (represents.drawnRaw raw id issued) }

/-- A row that is only revoked stores its token under the new alive flag. -/
theorem Stores.revised {old row : RefreshToken} {raw : String}
    {family : Family} (stores : Stores deps ledger old raw family)
    (alive : String → Family → Bool)
    (same : row =
      { old with
        revokedAt := row.revokedAt, replacedById := row.replacedById })
    (tip : raw = family.current →
      row.replacedById = none ∧
        (row.revokedAt = none ↔ alive old.familyId family = true))
    (rotated : raw ≠ family.current →
      row.revokedAt ≠ none ∧ row.replacedById ≠ none) :
    Stores deps (ledger.setAlive alive) row raw
      { family with alive := alive old.familyId family } := by
  have sameFamily : row.familyId = old.familyId := by rw [same]
  have sameExpiry : row.expiresAt = old.expiresAt := by rw [same]
  have sameHash : row.tokenHash = old.tokenHash := by rw [same]
  have sameUser : row.userId = old.userId := by rw [same]
  refine
    { hash := sameHash.trans stores.hash
      issued := sameFamily ▸ stores.issued
      known := ?_
      user := sameUser.trans stores.user
      tip := ?_
      rotated := rotated }
  · simp only [Ledger.setAlive, sameFamily, stores.known, Option.map_some]
  · intro current
    exact ⟨sameExpiry.trans (stores.tip current).1, tip current⟩

/--
An update that only revokes rows, matched by a ledger that only changes the
alive flags, keeps the representation.
-/
theorem Represents.revise
    (represents : Represents deps users history state ledger)
    {condition : RefreshToken → Prop} [DecidablePred condition]
    {change : RefreshToken → RefreshToken}
    {alive : String → Family → Bool}
    (keeps : ∀ row, change row =
      { row with
        revokedAt := (change row).revokedAt
        replacedById := (change row).replacedById })
    (stores : ∀ row ∈ state.refreshTokens, ∀ raw family,
      Stores deps ledger row raw family →
        let after := if condition row then change row else row
        (raw = family.current →
          after.replacedById = none ∧
            (after.revokedAt = none ↔
              alive row.familyId family = true)) ∧
        (raw ≠ family.current →
          after.revokedAt ≠ none ∧ after.replacedById ≠ none)) :
    Represents deps users history
      { state with
        refreshTokens := updateWhere condition change state.refreshTokens }
      (ledger.setAlive alive) := by
  have keepsId : ∀ row, (change row).id = row.id := fun row => by
    rw [keeps row]
  have keepsHash : ∀ row, (change row).tokenHash = row.tokenHash :=
    fun row => by rw [keeps row]
  have keepsUser : ∀ row, (change row).userId = row.userId :=
    fun row => by rw [keeps row]
  refine
    { sameUsers := represents.sameUsers
      uniqueId := represents.uniqueId.updateWhere keepsId
      uniqueHash := represents.uniqueHash.updateWhere keepsHash
      owner := ?_
      stores := ?_
      stored := ?_
      currentIssued := ?_
      drawnRow := ?_
      drawnFamily := ?_
      drawnRaw := represents.drawnRaw }
  · intro row member
    rcases mem_updateWhere.mp member with ⟨old, oldMember, rfl⟩
    split_ifs
    · rw [keepsUser]
      exact represents.owner old oldMember
    · exact represents.owner old oldMember
  · intro row member
    rcases mem_updateWhere.mp member with ⟨old, oldMember, equal⟩
    rcases represents.stores old oldMember with ⟨raw, family, old_stores⟩
    rcases stores old oldMember raw family old_stores with ⟨tip, rotated⟩
    rw [← equal] at tip rotated
    refine ⟨raw, _, old_stores.revised alive ?_ tip rotated⟩
    rw [equal]
    split_ifs
    · exact keeps old
    · rfl
  · intro raw id issued
    rcases represents.stored raw id issued with ⟨row, member, hash⟩
    refine
      ⟨if condition row then change row else row,
        mem_updateWhere.mpr ⟨row, member, rfl⟩, ?_⟩
    split_ifs
    · rw [keepsHash, hash]
    · exact hash
  · intro id family known
    rcases Option.map_eq_some_iff.mp known with ⟨old, oldKnown, rfl⟩
    exact represents.currentIssued id old oldKnown
  · intro row member
    rcases mem_updateWhere.mp member with ⟨old, oldMember, rfl⟩
    split_ifs
    · rw [keepsId]
      exact represents.drawnRow old oldMember
    · exact represents.drawnRow old oldMember
  · intro id family known
    rcases Option.map_eq_some_iff.mp known with ⟨old, oldKnown, -⟩
    exact represents.drawnFamily id old oldKnown

/-- Revoking a family is killing it. -/
theorem Represents.familyRevoked
    (represents : Represents deps users history state ledger)
    (id : String) (now : Time) :
    Represents deps users history
      { state with
        refreshTokens := familyRevoked id now state.refreshTokens }
      (ledger.kill id) := by
  rw [Ledger.kill_eq_setAlive]
  refine represents.revise (fun row => rfl) ?_
  intro row member raw family stores
  by_cases inFamily : row.familyId = id
  · by_cases unrevoked : row.revokedAt = none
    · refine ⟨fun current => ?_, fun rotated => ?_⟩
      · simpa [inFamily, unrevoked, revoke] using (stores.tip current).2.1
      · exact absurd unrevoked (stores.rotated rotated).1
    · refine ⟨fun current => ?_, fun rotated => ?_⟩
      · simpa [inFamily, unrevoked] using (stores.tip current).2.1
      · simpa [inFamily, unrevoked] using (stores.rotated rotated).2
  · refine ⟨fun current => ?_, fun rotated => ?_⟩
    · simpa [inFamily] using (stores.tip current).2
    · simpa [inFamily] using stores.rotated rotated

/-- Revoking a user's tokens is killing the user's families. -/
theorem Represents.userRevoked
    (represents : Represents deps users history state ledger)
    (user : String) (now : Time) :
    Represents deps users history
      { state with
        refreshTokens :=
          updateWhere (fun row => row.userId = user ∧ row.revokedAt = none)
            (revoke now) state.refreshTokens }
      (ledger.killUser user) := by
  rw [Ledger.killUser_eq_setAlive]
  refine represents.revise (fun row => rfl) ?_
  intro row member raw family stores
  have sameUser := stores.user
  by_cases ofUser : row.userId = user
  · have familyOfUser : family.user = user := sameUser ▸ ofUser
    by_cases unrevoked : row.revokedAt = none
    · refine ⟨fun current => ?_, fun rotated => ?_⟩
      · simpa [ofUser, unrevoked, familyOfUser, revoke] using
          (stores.tip current).2.1
      · exact absurd unrevoked (stores.rotated rotated).1
    · refine ⟨fun current => ?_, fun rotated => ?_⟩
      · simpa [ofUser, unrevoked, familyOfUser] using
          (stores.tip current).2.1
      · simpa [ofUser, unrevoked] using (stores.rotated rotated).2
  · have familyNotOfUser : family.user ≠ user := sameUser ▸ ofUser
    refine ⟨fun current => ?_, fun rotated => ?_⟩
    · simpa [ofUser, familyNotOfUser] using (stores.tip current).2
    · simpa [ofUser] using stores.rotated rotated

/-- Revoking the row of a family's current token is killing the family. -/
theorem Represents.currentRevoked
    (represents : Represents deps users history state ledger)
    {token : RefreshToken} {raw id : String} {family : Family} (now : Time)
    (tokenMember : token ∈ state.refreshTokens)
    (inFamily : token.familyId = id)
    (tokenStores : Stores deps ledger token raw family)
    (isCurrent : family.current = raw) :
    Represents deps users history
      { state with
        refreshTokens :=
          updateWhere (fun row => row.id = token.id) (replace now none)
            state.refreshTokens }
      (ledger.kill id) := by
  rw [Ledger.kill_eq_setAlive]
  refine represents.revise (fun row => rfl) ?_
  intro row member other otherFamily stores
  by_cases sameId : row.id = token.id
  · have sameRow : row = token :=
      represents.uniqueId.eq_of_key member tokenMember sameId
    subst sameRow
    have sameFamily : otherFamily = family :=
      Option.some.inj (stores.known.symm.trans tokenStores.known)
    subst sameFamily
    refine ⟨fun _ => by simp [inFamily, replace], fun rotated => ?_⟩
    have tip := (tokenStores.tip isCurrent.symm).2.1
    exact absurd tip (stores.rotated rotated).2
  · refine ⟨fun current => ?_, fun rotated => ?_⟩
    · -- another family: the current row of this one is `token`
      have otherId : row.familyId ≠ id := by
        intro sameFamilyId
        have sameFamily : otherFamily = family := by
          have known := tokenStores.known
          rw [inFamily, ← sameFamilyId, stores.known] at known
          exact Option.some.inj known
        subst sameFamily
        rw [current, isCurrent] at stores
        exact sameId
          (congrArg (fun row : RefreshToken => row.id)
            (represents.row_eq member tokenMember stores tokenStores))
      simpa [sameId, otherId] using (stores.tip current).2
    · simpa [sameId] using stores.rotated rotated

end Revocations

/-! ## Insertions -/

section Insertions

variable {deps : SessionDeps} {users : List User}
  {history : List (SessionCall × Time)} {call : SessionCall × Time}
  {state : AuthState} {ledger : Ledger}

/-- A family other than the one a token is issued for keeps its rows. -/
theorem Stores.issue {row : RefreshToken} {raw id : String}
    {family new : Family} (stores : Stores deps ledger row raw family)
    (older : raw ≠ new.current) (other : row.familyId ≠ id) :
    Stores deps (ledger.issue id new) row raw family :=
  { stores with
    issued := (Ledger.issue_issuedTo_of_ne older).trans stores.issued
    known := (Ledger.issue_families_of_ne other).trans stores.known }

/-- An older row of the family a token is issued for is a rotated one. -/
theorem Stores.superseded {row : RefreshToken} {raw : String}
    {family : Family} (stores : Stores deps ledger row raw family)
    (new : Family) (after : RefreshToken)
    (older : raw ≠ new.current) (sameUser : new.user = family.user)
    (hash : after.tokenHash = row.tokenHash)
    (user : after.userId = row.userId)
    (inFamily : after.familyId = row.familyId)
    (revoked : after.revokedAt ≠ none)
    (replaced : after.replacedById ≠ none) :
    Stores deps (ledger.issue row.familyId new) after raw new where
  hash := hash.trans stores.hash
  issued := by
    rw [Ledger.issue_issuedTo_of_ne older, inFamily]
    exact stores.issued
  known := by
    rw [inFamily, Ledger.issue_families_self]
  user := by rw [user, stores.user, sameUser]
  tip := fun current => absurd current older
  rotated := fun _ => ⟨revoked, replaced⟩

theorem Represents.ne_drawn_id
    (represents : Represents deps users history state ledger)
    (fresh : Fresh deps users (history ++ [call]))
    {row : RefreshToken} (member : row ∈ state.refreshTokens)
    {id : String} (drawn : id ∈ call.1.drawnIds) : row.id ≠ id := by
  intro same
  exact fresh.id_not_drawn drawn (same ▸ represents.drawnRow row member)

theorem Represents.ne_drawn_hash
    (represents : Represents deps users history state ledger)
    (fresh : Fresh deps users (history ++ [call]))
    {row : RefreshToken} (member : row ∈ state.refreshTokens)
    {raw : String} (drawn : raw ∈ call.1.drawnRaws) :
    row.tokenHash ≠ deps.hashRefresh raw := by
  intro same
  rcases represents.stores row member with ⟨other, family, stores⟩
  have earlier := represents.drawnRaw other _ stores.issued
  have equal : other = raw :=
    fresh.raw_eq earlier
      (SessionCall.drawnRaws_subset_usedRaws call.1 drawn)
      (stores.hash.symm.trans same)
  exact fresh.raw_not_drawn drawn (equal ▸ earlier)

theorem Represents.raw_ne_drawn
    (represents : Represents deps users history state ledger)
    (fresh : Fresh deps users (history ++ [call]))
    {other id : String} (issued : ledger.issuedTo other = some id)
    {raw : String} (drawn : raw ∈ call.1.drawnRaws) : other ≠ raw := by
  rintro rfl
  exact fresh.raw_not_drawn drawn (represents.drawnRaw other id issued)

/--
Append the row of a new current token.  The older rows may have been changed,
as long as they keep their ids, hashes and users and represent the new ledger.
-/
theorem Represents.append
    (represents : Represents deps users history state ledger)
    (fresh : Fresh deps users (history ++ [call]))
    {rows : List RefreshToken} {row : RefreshToken} {id : String}
    {new : Family}
    (uniqueId : UniqueKey (fun row => row.id) rows)
    (uniqueHash : UniqueKey (fun row => row.tokenHash) rows)
    (fromOld : ∀ row ∈ rows, ∃ old ∈ state.refreshTokens,
      row.id = old.id ∧ row.tokenHash = old.tokenHash ∧
        row.userId = old.userId)
    (toRow : ∀ old ∈ state.refreshTokens, ∃ row ∈ rows,
      row.tokenHash = old.tokenHash)
    (stores : ∀ row ∈ rows, ∃ raw family,
      Stores deps (ledger.issue id new) row raw family)
    (newStores : Stores deps (ledger.issue id new) row new.current new)
    (newId : row.id ∈ call.1.drawnIds)
    (newRaw : new.current ∈ call.1.drawnRaws)
    (familyDrawn : id ∈ drawnIds (history ++ [call]))
    (owner : ∃ user ∈ users, user.id = row.userId) :
    Represents deps users (history ++ [call])
      { state with refreshTokens := rows ++ [row] }
      (ledger.issue id new) := by
  refine
    { sameUsers := represents.sameUsers
      uniqueId := uniqueId.append ?_
      uniqueHash := uniqueHash.append ?_
      owner := ?_
      stores := ?_
      stored := ?_
      currentIssued := ?_
      drawnRow := ?_
      drawnFamily := ?_
      drawnRaw := ?_ }
  · intro other member same
    rcases fromOld other member with ⟨old, oldMember, sameId, -⟩
    exact represents.ne_drawn_id fresh oldMember newId (sameId ▸ same)
  · intro other member same
    rcases fromOld other member with ⟨old, oldMember, -, sameHash, -⟩
    exact represents.ne_drawn_hash fresh oldMember newRaw
      (sameHash.symm.trans (same.trans newStores.hash))
  · intro other member
    rcases List.mem_append.mp member with older | newest
    · rcases fromOld other older with ⟨old, oldMember, -, -, sameUser⟩
      rw [sameUser]
      exact represents.owner old oldMember
    · rw [List.mem_singleton.mp newest]
      exact owner
  · intro other member
    rcases List.mem_append.mp member with older | newest
    · exact stores other older
    · rw [List.mem_singleton.mp newest]
      exact ⟨new.current, new, newStores⟩
  · intro raw familyId issued
    by_cases isNew : raw = new.current
    · subst isNew
      exact ⟨row, List.mem_concat_self, newStores.hash⟩
    · rw [Ledger.issue_issuedTo_of_ne isNew] at issued
      rcases represents.stored raw familyId issued with ⟨old, oldMember, hash⟩
      rcases toRow old oldMember with ⟨other, member, sameHash⟩
      exact
        ⟨other, List.mem_append_left _ member, sameHash.trans hash⟩
  · intro familyId family known
    by_cases same : familyId = id
    · subst same
      rw [Ledger.issue_families_self, Option.some.injEq] at known
      subst known
      exact Ledger.issue_issuedTo_current _ _ _
    · rw [Ledger.issue_families_of_ne same] at known
      have issued := represents.currentIssued familyId family known
      rw [Ledger.issue_issuedTo_of_ne
        (represents.raw_ne_drawn fresh issued newRaw)]
      exact issued
  · intro other member
    rw [drawnIds_concat]
    rcases List.mem_append.mp member with older | newest
    · rcases fromOld other older with ⟨old, oldMember, sameId, -⟩
      rw [sameId]
      exact List.mem_append_left _ (represents.drawnRow old oldMember)
    · rw [List.mem_singleton.mp newest]
      exact List.mem_append_right _ newId
  · intro familyId family known
    by_cases same : familyId = id
    · rw [same]
      exact familyDrawn
    · rw [Ledger.issue_families_of_ne same] at known
      rw [drawnIds_concat]
      exact
        List.mem_append_left _
          (represents.drawnFamily familyId family known)
  · intro raw familyId issued
    rw [drawnRaws_concat]
    by_cases isNew : raw = new.current
    · rw [isNew]
      exact List.mem_append_right _ newRaw
    · rw [Ledger.issue_issuedTo_of_ne isNew] at issued
      exact
        List.mem_append_left _ (represents.drawnRaw raw familyId issued)

end Insertions

/-! ## One call -/

section Steps

variable {deps : SessionDeps} {users : List User}
  {history : List (SessionCall × Time)} {state : AuthState}
  {ledger : Ledger} {draws : SessionDraws} {now : Time}
  {sessionMeta : Option SessionMeta}

theorem Represents.created {user : String}
    (represents : Represents deps users history state ledger)
    (fresh : Fresh deps users
      (history ++ [(.createSession draws user sessionMeta, now)])) :
    Represents deps users
      (history ++ [(.createSession draws user sessionMeta, now)])
      { state with
        refreshTokens :=
          state.refreshTokens ++
            [(rootToken deps draws user sessionMeta).insertedAt now] }
      (ledger.issue draws.familyId
        { user
          current := draws.raw
          expiresAt := deps.expiry draws.now
          alive := true }) := by
  have familyNew : ∀ family,
      ledger.families draws.familyId ≠ some family := fun family known =>
    fresh.id_not_drawn (by simp [SessionCall.drawnIds])
      (represents.drawnFamily _ family known)
  refine
    represents.append fresh represents.uniqueId represents.uniqueHash
      (fun row member => ⟨row, member, rfl, rfl, rfl⟩)
      (fun old member => ⟨old, member, rfl⟩) ?_ ?_
      (by simp [SessionCall.drawnIds, rootToken])
      (by simp [SessionCall.drawnRaws]) ?_ ?_
  · intro row member
    rcases represents.stores row member with ⟨raw, family, stores⟩
    refine ⟨raw, family, stores.issue ?_ ?_⟩
    · exact
        represents.raw_ne_drawn fresh stores.issued
          (by simp [SessionCall.drawnRaws])
    · intro sameFamily
      exact familyNew family (sameFamily ▸ stores.known)
  · exact
      { hash := rfl
        issued := Ledger.issue_issuedTo_current _ _ _
        known := Ledger.issue_families_self _ _ _
        user := rfl
        tip := fun _ => ⟨rfl, rfl, by simp [rootToken]⟩
        rotated := fun distinct => absurd rfl distinct }
  · rw [drawnIds_concat]
    exact List.mem_append_right _ (by simp [SessionCall.drawnIds])
  · exact
      fresh.owners _ (List.mem_concat_self) user
        (by simp [SessionCall.opensFor])

/-- What the rows store once the current token of a family is rotated. -/
theorem Represents.stores_rotated {token old : RefreshToken} {raw : String}
    {family : Family}
    (represents : Represents deps users history state ledger)
    (fresh : Fresh deps users
      (history ++ [(.refresh draws raw sessionMeta, now)]))
    (tokenMember : token ∈ state.refreshTokens)
    (tokenStores : Stores deps ledger token raw family)
    (isCurrent : family.current = raw) (oldMember : old ∈ state.refreshTokens) :
    ∃ other otherFamily,
      Stores deps
        (ledger.issue token.familyId
          { family with
            current := draws.raw
            expiresAt := deps.expiry draws.now })
        (if old.id = token.id then replace now (some draws.id) old else old)
        other otherFamily := by
  have drawnRaw :
      draws.raw ∈ (SessionCall.refresh draws raw sessionMeta).drawnRaws := by
    simp [SessionCall.drawnRaws]
  rcases represents.stores old oldMember with ⟨other, otherFamily, stores⟩
  have older : other ≠ draws.raw :=
    represents.raw_ne_drawn fresh stores.issued drawnRaw
  by_cases sameRow : old.id = token.id
  · have equal : old = token :=
      represents.uniqueId.eq_of_key oldMember tokenMember sameRow
    subst equal
    rw [if_pos rfl]
    refine
      ⟨raw,
        { family with
          current := draws.raw
          expiresAt := deps.expiry draws.now },
        ?_⟩
    refine tokenStores.superseded _ _ ?_ rfl rfl rfl rfl ?_ ?_
    · exact represents.raw_ne_drawn fresh tokenStores.issued drawnRaw
    · simp [replace]
    · simp [replace]
  · rw [if_neg sameRow]
    by_cases sameFamily : old.familyId = token.familyId
    · have familyEq : otherFamily = family := by
        have known := tokenStores.known
        rw [← sameFamily, stores.known] at known
        exact Option.some.inj known
      subst familyEq
      have notCurrent : other ≠ otherFamily.current := by
        rintro rfl
        rw [isCurrent] at stores
        exact sameRow
          (congrArg (fun row : RefreshToken => row.id)
            (represents.row_eq oldMember tokenMember stores tokenStores))
      rcases stores.rotated notCurrent with ⟨revoked, replaced⟩
      rw [← sameFamily]
      refine
        ⟨other,
          { otherFamily with
            current := draws.raw
            expiresAt := deps.expiry draws.now },
          ?_⟩
      refine stores.superseded _ _ ?_ rfl rfl rfl rfl ?_ ?_
      · exact older
      · exact revoked
      · exact replaced
    · exact ⟨other, otherFamily, stores.issue older sameFamily⟩

theorem Represents.rotated {token : RefreshToken} {raw id : String}
    {family : Family}
    (represents : Represents deps users history state ledger)
    (fresh : Fresh deps users
      (history ++ [(.refresh draws raw sessionMeta, now)]))
    (tokenMember : token ∈ state.refreshTokens)
    (inFamily : token.familyId = id)
    (tokenStores : Stores deps ledger token raw family)
    (isCurrent : family.current = raw) (alive : family.alive = true) :
    Represents deps users
      (history ++ [(.refresh draws raw sessionMeta, now)])
      { state with
        refreshTokens :=
          rotatedRows deps draws token sessionMeta now state.refreshTokens }
      (ledger.issue id
        { family with
          current := draws.raw
          expiresAt := deps.expiry draws.now }) := by
  subst inFamily
  have drawnId :
      draws.id ∈ (SessionCall.refresh draws raw sessionMeta).drawnIds := by
    simp [SessionCall.drawnIds]
  have drawnRaw :
      draws.raw ∈ (SessionCall.refresh draws raw sessionMeta).drawnRaws := by
    simp [SessionCall.drawnRaws]
  have skipsNew :
      rotatedRows deps draws token sessionMeta now state.refreshTokens =
        updateWhere (fun row => row.id = token.id)
            (replace now (some draws.id)) state.refreshTokens ++
          [(RefreshSession.successor deps draws token sessionMeta).insertedAt
            now] :=
    updateWhere_concat_of_not
      (represents.ne_drawn_id fresh tokenMember drawnId).symm
  rw [skipsNew]
  refine
    represents.append fresh
      (represents.uniqueId.updateWhere fun row => rfl)
      (represents.uniqueHash.updateWhere fun row => rfl) ?_ ?_ ?_ ?_
      drawnId drawnRaw ?_ ?_
  · intro row member
    rcases mem_updateWhere.mp member with ⟨old, oldMember, rfl⟩
    refine ⟨old, oldMember, ?_⟩
    split_ifs <;> exact ⟨rfl, rfl, rfl⟩
  · intro old member
    refine ⟨_, mem_updateWhere.mpr ⟨old, member, rfl⟩, ?_⟩
    split_ifs <;> rfl
  · intro row member
    rcases mem_updateWhere.mp member with ⟨old, oldMember, rfl⟩
    exact represents.stores_rotated fresh tokenMember tokenStores isCurrent
      oldMember
  · exact
      { hash := rfl
        issued := Ledger.issue_issuedTo_current _ _ _
        known := Ledger.issue_families_self _ _ _
        user := tokenStores.user
        tip := fun _ => ⟨rfl, rfl, by simp [RefreshSession.successor, alive]⟩
        rotated := fun distinct => absurd rfl distinct }
  · rw [drawnIds_concat]
    exact
      List.mem_append_left _
        (represents.drawnFamily _ family tokenStores.known)
  · exact represents.owner token tokenMember

/-- The insertions of the calls break no constraint. -/
theorem Represents.root_accepted {user : String}
    (represents : Represents deps users history state ledger)
    (fresh : Fresh deps users
      (history ++ [(.createSession draws user sessionMeta, now)])) :
    insertViolation state.users state.refreshTokens
      (rootToken deps draws user sessionMeta) = none := by
  refine
    insertViolation_eq_none_iff.mpr
      ⟨fun row member => ?_, fun row member => ?_, ?_, references_none _,
        references_none _⟩
  · exact
      represents.ne_drawn_id fresh member
        (by simp [SessionCall.drawnIds, rootToken])
  · exact
      represents.ne_drawn_hash fresh member
        (by simp [SessionCall.drawnRaws])
  · rw [represents.sameUsers]
    exact
      fresh.owners _ (List.mem_concat_self) user
        (by simp [SessionCall.opensFor])

theorem Represents.successor_accepted {token : RefreshToken} {raw : String}
    (represents : Represents deps users history state ledger)
    (fresh : Fresh deps users
      (history ++ [(.refresh draws raw sessionMeta, now)]))
    (member : token ∈ state.refreshTokens) :
    insertViolation state.users state.refreshTokens
      (RefreshSession.successor deps draws token sessionMeta) = none := by
  refine
    insertViolation_eq_none_iff.mpr
      ⟨fun row rowMember => ?_, fun row rowMember => ?_, ?_,
        references_some_iff.mpr ⟨token, member, rfl⟩, references_none _⟩
  · exact
      represents.ne_drawn_id fresh rowMember
        (by simp [SessionCall.drawnIds, RefreshSession.successor])
  · exact
      represents.ne_drawn_hash fresh rowMember
        (by simp [SessionCall.drawnRaws])
  · rw [represents.sameUsers]
    exact represents.owner token member

/-- A ledger that issues a drawn token changes. -/
theorem Represents.issue_ne {call : SessionCall × Time} {id : String}
    {new : Family} (represents : Represents deps users history state ledger)
    (fresh : Fresh deps users (history ++ [call]))
    (drawn : new.current ∈ call.1.drawnRaws) :
    ledger.issue id new ≠ ledger := by
  intro same
  have issued : ledger.issuedTo new.current = some id := by
    rw [← same, Ledger.issue_issuedTo_current]
  exact represents.raw_ne_drawn fresh issued drawn rfl

/-- An unrevoked row belongs to an alive family of its user. -/
theorem Represents.alive_of_unrevoked
    (represents : Represents deps users history state ledger)
    {row : RefreshToken} (member : row ∈ state.refreshTokens)
    (unrevoked : row.revokedAt = none) :
    ∃ family, ledger.families row.familyId = some family ∧
      family.alive = true ∧ family.user = row.userId := by
  rcases represents.stores row member with ⟨raw, family, stores⟩
  refine ⟨family, stores.known, ?_, stores.user.symm⟩
  by_cases current : raw = family.current
  · exact (stores.tip current).2.2.mp unrevoked
  · exact absurd unrevoked (stores.rotated current).1

/-- The table's answer to a call and the ledger's answer to it agree. -/
structure Agree (deps : SessionDeps) (users : List User)
    (history : List (SessionCall × Time)) (state : AuthState)
    (ledger : Ledger)
    (low : Except Failure (Option Session) × AuthState)
    (high : Except Failure (Option Session) × Ledger) : Prop where
  answer : low.1 = high.1
  represents : Represents deps users history low.2 high.2
  idle : high.2 = ledger → low.2 = state

/-- Killing a family that has been revoked already changes no row. -/
theorem Represents.familyRevoked_idle
    (represents : Represents deps users history state ledger)
    {id : String} {family : Family}
    (known : ledger.families id = some family)
    (idle : ledger.kill id = ledger) (now : Time) :
    SessionRefinement.familyRevoked id now state.refreshTokens =
      state.refreshTokens := by
  refine updateWhere_eq_self ?_
  rintro row member ⟨inFamily, unrevoked⟩
  have notAlive := Ledger.alive_eq_false_of_kill_eq known idle
  exact
    absurd unrevoked
      (represents.revoked_of_dead ⟨family, known, notAlive⟩ member inFamily)

theorem Represents.userRevoked_idle
    (represents : Represents deps users history state ledger)
    {user : String} (idle : ledger.killUser user = ledger) (now : Time) :
    updateWhere (fun row => row.userId = user ∧ row.revokedAt = none)
      (revoke now) state.refreshTokens = state.refreshTokens := by
  refine updateWhere_eq_self ?_
  rintro row member ⟨ofUser, unrevoked⟩
  obtain ⟨family, known, alive, sameUser⟩ :=
    represents.alive_of_unrevoked member unrevoked
  have notAlive :=
    Ledger.alive_eq_false_of_killUser_eq known (sameUser.trans ofUser) idle
  rw [alive] at notAlive
  exact Bool.noConfusion notAlive

theorem Represents.createSession_agree {user : String}
    (represents : Represents deps users history state ledger)
    (fresh : Fresh deps users
      (history ++ [(.createSession draws user sessionMeta, now)])) :
    Agree deps users
      (history ++ [(.createSession draws user sessionMeta, now)])
      state ledger
      ((sessionMachine deps).step state
        (.createSession draws user sessionMeta, now))
      (ledger.step deps (.createSession draws user sessionMeta, now)) := by
  have ran :
      (sessionMachine deps).step state
          (.createSession draws user sessionMeta, now) =
        (.ok (some (Ledger.session deps draws user now)),
          { state with
            refreshTokens :=
              state.refreshTokens ++
                [(rootToken deps draws user sessionMeta).insertedAt now] }) := by
    change (some <$> createSession deps draws user sessionMeta).run _ _ _ = _
    rw [Program.run_map, run_createSession (represents.root_accepted fresh)]
    rfl
  rw [ran]
  refine ⟨rfl, represents.created fresh, fun idle => ?_⟩
  refine absurd idle (represents.issue_ne fresh ?_)
  simp [SessionCall.drawnRaws]

theorem Represents.refresh_agree {raw : String}
    (noGrace : deps.graceWindowSec = 0)
    (represents : Represents deps users history state ledger)
    (fresh : Fresh deps users
      (history ++ [(.refresh draws raw sessionMeta, now)])) :
    Agree deps users
      (history ++ [(.refresh draws raw sessionMeta, now)])
      state ledger
      ((sessionMachine deps).step state (.refresh draws raw sessionMeta, now))
      (ledger.step deps (.refresh draws raw sessionMeta, now)) := by
  have used :
      raw ∈ (SessionCall.refresh draws raw sessionMeta).usedRaws := by
    simp [SessionCall.usedRaws]
  have later :=
    represents.later (.refresh draws raw sessionMeta, now)
  have ran :
      (sessionMachine deps).step state (.refresh draws raw sessionMeta, now) =
        ((((RefreshSession.lookedUp deps draws sessionMeta
          (first (fun row => row.tokenHash = deps.hashRefresh raw)
            state.refreshTokens)).run
          (authAdapter deps.toAuthServices) now state).1.map some),
        ((RefreshSession.lookedUp deps draws sessionMeta
          (first (fun row => row.tokenHash = deps.hashRefresh raw)
            state.refreshTokens)).run
          (authAdapter deps.toAuthServices) now state).2) := by
    change
      (some <$> RefreshSession.execute deps draws raw sessionMeta).run _ _ _ =
        _
    rw [Program.run_map, run_execute]
  rw [ran]
  change Agree _ _ _ _ _ _ (ledger.refresh deps draws raw now)
  cases owned : ledger.familyOf raw with
  | none =>
      rw [represents.lookup_none fresh used owned]
      simp only [Ledger.refresh, owned]
      exact ⟨rfl, later, fun _ => rfl⟩
  | some found =>
      rcases found with ⟨id, family⟩
      obtain ⟨token, member, selected, inFamily, stores⟩ :=
        represents.lookup_some fresh used owned
      rw [selected]
      simp only [Ledger.refresh, owned, RefreshSession.lookedUp]
      by_cases current : family.current = raw
      · obtain ⟨sameExpiry, notReplaced, unrevoked_iff⟩ :=
          stores.tip current.symm
        cases revoked : token.revokedAt with
        | some revokedAt =>
            have notAlive : ¬ family.alive = true := by
              rw [← unrevoked_iff, revoked]
              simp
            simp only [current, notAlive, if_true, Bool.false_eq_true,
              if_false, run_replayed noGrace, notReplaced]
            exact ⟨rfl, later, fun _ => rfl⟩
        | none =>
            have alive : family.alive = true := unrevoked_iff.mp revoked
            by_cases expired : family.expiresAt < draws.now
            · simp only [current, alive, sameExpiry, expired, if_true]
              exact ⟨rfl, later, fun _ => rfl⟩
            · simp only [current, alive, sameExpiry, expired, if_true,
                if_false,
                run_rotateToken (represents.successor_accepted fresh member)]
              refine ⟨by rw [stores.user]; rfl, ?_, fun idle => ?_⟩
              · simpa [alive] using
                  represents.rotated fresh member inFamily stores current alive
              · refine absurd idle (represents.issue_ne fresh ?_)
                simp [SessionCall.drawnRaws]
      · rcases stores.rotated (Ne.symm current) with ⟨revoked, replaced⟩
        rcases Option.ne_none_iff_exists'.mp revoked with
            ⟨revokedAt, revokedAt_eq⟩
        simp only [current, if_false, revokedAt_eq, run_replayed noGrace,
          replaced, inFamily]
        refine ⟨rfl, later.familyRevoked id now, fun idle => ?_⟩
        have known : ledger.families id = some family := inFamily ▸ stores.known
        simp only [represents.familyRevoked_idle known idle now]

theorem Represents.revoke_agree {raw : String}
    (represents : Represents deps users history state ledger)
    (fresh : Fresh deps users (history ++ [(.revoke raw, now)])) :
    Agree deps users (history ++ [(.revoke raw, now)]) state ledger
      ((sessionMachine deps).step state (.revoke raw, now))
      (ledger.step deps (.revoke raw, now)) := by
  have used : raw ∈ (SessionCall.revoke raw).usedRaws := by
    simp [SessionCall.usedRaws]
  have later := represents.later (.revoke raw, now)
  change Agree _ _ _ _ _
    (((fun _ => none) <$> RevokeSession.execute deps raw).run
      (authAdapter deps.toAuthServices) now state)
    (.ok none, ledger.revoke raw)
  rw [Program.run_map, run_revoke]
  cases owned : ledger.familyOf raw with
  | none =>
      rw [represents.lookup_none fresh used owned]
      simp only [Ledger.revoke, owned]
      exact ⟨rfl, later, fun _ => rfl⟩
  | some found =>
      rcases found with ⟨id, family⟩
      obtain ⟨token, member, selected, inFamily, stores⟩ :=
        represents.lookup_some fresh used owned
      have known : ledger.families id = some family := inFamily ▸ stores.known
      rw [selected]
      simp only [Ledger.revoke, owned]
      by_cases current : family.current = raw
      · rcases stores.tip current.symm with ⟨-, -, unrevoked_iff⟩
        simp only [current, if_true]
        by_cases unrevoked : token.revokedAt = none
        · simp only [unrevoked, if_true]
          refine
            ⟨rfl, later.currentRevoked now member inFamily stores current,
              fun idle => ?_⟩
          have notAlive := Ledger.alive_eq_false_of_kill_eq known idle
          rw [unrevoked_iff.mp unrevoked] at notAlive
          exact Bool.noConfusion notAlive
        · simp only [unrevoked, if_false]
          have notAlive : family.alive = false := by
            rw [unrevoked_iff] at unrevoked
            exact Bool.eq_false_iff.mpr unrevoked
          rw [Ledger.kill_eq_self known notAlive]
          exact ⟨rfl, later, fun _ => rfl⟩
      · have revoked := (stores.rotated (Ne.symm current)).1
        simp only [current, revoked, if_false]
        exact ⟨rfl, later, fun _ => rfl⟩

/-- One call, whichever it is. -/
theorem Represents.step (noGrace : deps.graceWindowSec = 0)
    (represents : Represents deps users history state ledger)
    (call : SessionCall × Time)
    (fresh : Fresh deps users (history ++ [call])) :
    Agree deps users (history ++ [call]) state ledger
      ((sessionMachine deps).step state call) (ledger.step deps call) := by
  rcases call with ⟨call, now⟩
  cases call with
  | createSession draws user sessionMeta =>
      exact represents.createSession_agree fresh
  | refresh draws raw sessionMeta =>
      exact represents.refresh_agree noGrace fresh
  | revoke raw => exact represents.revoke_agree fresh
  | revokeAllForUser user =>
      refine ⟨rfl, (represents.later _).userRevoked user now, fun idle => ?_⟩
      change { state with refreshTokens := updateWhere _ _ _ } = state
      rw [represents.userRevoked_idle idle]

end Steps

/-! ## Whole runs -/

section WholeRuns

variable {deps : SessionDeps} {users : List User}
  {emailTokens : List EmailToken} {calls : List (SessionCall × Time)}

/-- The account tables before any session has been opened. -/
def noSessions (users : List User) (emailTokens : List EmailToken) :
    AuthState where
  users := users
  refreshTokens := []
  emailTokens := emailTokens

theorem represents_noSessions :
    Represents deps users [] (noSessions users emailTokens) Ledger.empty where
  sameUsers := rfl
  uniqueId := unclashing_nil
  uniqueHash := unclashing_nil
  owner := by simp [noSessions]
  stores := by simp [noSessions]
  stored := by simp [Ledger.empty]
  currentIssued := by simp [Ledger.empty]
  drawnRow := by simp [noSessions]
  drawnFamily := by simp [Ledger.empty]
  drawnRaw := by simp [Ledger.empty]

/-- Along a run the table answers as the ledger does and represents it. -/
theorem run_represents (emailTokens : List EmailToken)
    (noGrace : deps.graceWindowSec = 0) (fresh : Fresh deps users calls) :
    (sessionMachine deps).answers (noSessions users emailTokens) calls =
        (Ledger.machine deps).answers Ledger.empty calls ∧
      Represents deps users calls
        ((sessionMachine deps).reach (noSessions users emailTokens) calls)
        ((Ledger.machine deps).reach Ledger.empty calls) := by
  refine
    @Transition.Machine.simulation _ _ _ _ _ _ (Represents deps users)
      (Fresh deps users) ?_ ?_ _ _ represents_noSessions calls fresh
  · intro history call allowed
    exact allowed.initial
  · intro history call low high allowed related
    have agree := Represents.step noGrace related call allowed
    exact ⟨agree.answer, agree.represents⟩

/-- The row is unrevoked and holds what the ledger knows of an alive family. -/
structure IsTip (deps : SessionDeps) (row : RefreshToken)
    (family : Family) : Prop where
  unrevoked : row.revokedAt = none
  alive : family.alive = true
  user : row.userId = family.user
  hash : row.tokenHash = deps.hashRefresh family.current
  expiry : row.expiresAt = family.expiresAt

/-- The unrevoked rows of the table are the alive families of the ledger. -/
structure Mirrors (deps : SessionDeps) (state : AuthState)
    (ledger : Ledger) : Prop where
  family : ∀ row ∈ state.refreshTokens, row.revokedAt = none →
    ∃ family, ledger.families row.familyId = some family ∧
      IsTip deps row family
  row : ∀ id family, ledger.families id = some family →
    family.alive = true →
      ∃ row ∈ state.refreshTokens, row.familyId = id ∧ IsTip deps row family

theorem Stores.isTip {ledger : Ledger}
    {row : RefreshToken} {raw : String} {family : Family}
    (stores : Stores deps ledger row raw family)
    (current : raw = family.current) (alive : family.alive = true) :
    IsTip deps row family where
  unrevoked := (stores.tip current).2.2.mpr alive
  alive := alive
  user := stores.user
  hash := current ▸ stores.hash
  expiry := (stores.tip current).1

theorem Represents.mirrors {state : AuthState} {ledger : Ledger}
    (represents : Represents deps users calls state ledger)
    (fresh : Fresh deps users calls) : Mirrors deps state ledger where
  family := by
    intro row member unrevoked
    rcases represents.stores row member with ⟨raw, family, stores⟩
    have current : raw = family.current := by
      by_contra rotated
      exact (stores.rotated rotated).1 unrevoked
    have alive := (stores.tip current).2.2.mp unrevoked
    exact ⟨family, stores.known, stores.isTip current alive⟩
  row := by
    intro id family known alive
    have issued := represents.currentIssued id family known
    rcases represents.stored _ id issued with ⟨row, member, hash⟩
    rcases represents.stores row member with ⟨raw, rowFamily, stores⟩
    have current : raw = family.current :=
      fresh.drawn_eq (represents.drawnRaw raw _ stores.issued)
        (represents.drawnRaw _ id issued) (stores.hash.symm.trans hash)
    have sameId : row.familyId = id := by
      have rowIssued := stores.issued
      rw [current, issued] at rowIssued
      exact (Option.some.inj rowIssued).symm
    have sameFamily : rowFamily = family :=
      Option.some.inj (stores.known.symm.trans (sameId ▸ known))
    subst sameFamily
    exact ⟨row, member, sameId, stores.isTip current alive⟩

/-- No run revives a dead family. -/
theorem dead_reach {ledger : Ledger} {id : String}
    (dead : ledger.Dead id) (fresh : id ∉ drawnIds calls) :
    ((Ledger.machine deps).reach ledger calls).Dead id := by
  induction calls using List.reverseRecOn with
  | nil => exact dead
  | append_singleton history call induction =>
      rw [drawnIds_concat, List.mem_append, not_or] at fresh
      rw [Transition.Machine.reach_concat]
      exact (induction fresh.1).step call fresh.2

/--
Run one after another with the grace window closed, the calls on the
`refresh_tokens` table behave as the ledger of sessions.

The answers are the same; at every moment the unrevoked rows are the alive
families; a call that changes nothing in the ledger changes nothing in the
tables; and a family that is dead is dead for the rest of the run.
-/
theorem session_refinement (noGrace : deps.graceWindowSec = 0)
    (fresh : Fresh deps users calls) :
    (sessionMachine deps).answers (noSessions users emailTokens) calls =
        (Ledger.machine deps).answers Ledger.empty calls ∧
      (∀ before after, calls = before ++ after →
        Mirrors deps
          ((sessionMachine deps).reach (noSessions users emailTokens) before)
          ((Ledger.machine deps).reach Ledger.empty before)) ∧
      (∀ before call after, calls = before ++ call :: after →
        (Ledger.machine deps).reach Ledger.empty (before ++ [call]) =
            (Ledger.machine deps).reach Ledger.empty before →
          (sessionMachine deps).reach (noSessions users emailTokens)
              (before ++ [call]) =
            (sessionMachine deps).reach (noSessions users emailTokens)
              before) ∧
      (∀ before after, calls = before ++ after → ∀ id,
        ((Ledger.machine deps).reach Ledger.empty before).Dead id →
          ((Ledger.machine deps).reach Ledger.empty calls).Dead id) := by
  refine ⟨(run_represents emailTokens noGrace fresh).1, ?_, ?_, ?_⟩
  · rintro before after rfl
    exact
      (run_represents emailTokens noGrace fresh.of_append).2.mirrors
        fresh.of_append
  · rintro before call after rfl idle
    rw [List.append_cons] at fresh
    have represents :=
      (run_represents emailTokens noGrace fresh.of_append.initial).2
    have agree := Represents.step noGrace represents call fresh.of_append
    rw [Transition.Machine.reach_concat] at idle ⊢
    exact agree.idle idle
  · rintro before after rfl id dead
    have represents :=
      (run_represents emailTokens noGrace fresh.of_append).2
    have notDrawn : id ∉ drawnIds after := by
      rcases dead with ⟨family, known, -⟩
      exact fresh.not_drawn_after (represents.drawnFamily id family known)
    rw [Transition.Machine.reach_append]
    exact dead_reach dead notDrawn

end WholeRuns

/-- A login, a refresh, a replay of the first token, and the second token. -/
def replayRun : List (SessionCall × Time) :=
  [(.createSession (sampleDraws 0 "0") "user-1" none, 0),
    (.refresh (sampleDraws 1000 "1") "raw-0" none, 1000),
    (.refresh (sampleDraws 2000 "2") "raw-0" none, 2000),
    (.refresh (sampleDraws 3000 "3") "raw-1" none, 3000)]

theorem replayRun_fresh :
    Fresh (sampleDeps 0) [sampleUser] replayRun where
  ids := by decide
  raws := by decide
  hash := by
    have injective : ∀ raw ∈ usedRaws replayRun, ∀ other ∈ usedRaws replayRun,
        (sampleDeps 0).hashRefresh raw = (sampleDeps 0).hashRefresh other →
          raw = other := by
      decide
    exact fun raw member other otherMember =>
      injective raw member other otherMember
  owners := by decide

/-- The replay is refused and kills the session of the second token. -/
theorem session_refinement_replayRun :
    (sessionMachine (sampleDeps 0)).answers (noSessions [sampleUser] [])
        replayRun =
      [.ok (some ⟨"user-1.jti-0", "raw-0"⟩),
        .ok (some ⟨"user-1.jti-1", "raw-1"⟩),
        .error (.authError "Invalid refresh token"),
        .error (.authError "Invalid refresh token")] :=
  (session_refinement rfl replayRun_fresh).1.trans (by decide)

end ChatBackend.Auth.SessionRefinement
