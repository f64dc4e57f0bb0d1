import ChatBackend.Users

/-!
# The account tables and the operations on them

The port of the authentication use cases: the repositories of users, refresh
tokens and email tokens, the password hasher and the token signer.  The adapter
gives the SQL statements of the repositories on the three tables.  The input of
an operation is the clock of the server that executes it, which is what `now()`
reads in a statement.

Ids in these tables come from the id generator or from another row, never from
a request, so they are compared as they are.
-/

namespace ChatBackend.Auth.TokenStore

open Effects
open Relational

/-! ## Rows -/

/-- What a caller supplies for a refresh token; the row adds `created_at`. -/
structure NewRefreshToken where
  id : String
  userId : String
  tokenHash : String
  familyId : String
  parentId : Option String
  replacedById : Option String
  userAgent : Option HeaderText
  ip : Option String
  expiresAt : Time
  revokedAt : Option Time
deriving DecidableEq, Repr

/-- A row of the `refresh_tokens` table. -/
structure RefreshToken extends NewRefreshToken where
  createdAt : Time
deriving DecidableEq, Repr

/-- The row of a record inserted at the given time. -/
def NewRefreshToken.insertedAt (record : NewRefreshToken) (now : Time) :
    RefreshToken where
  toNewRefreshToken := record
  createdAt := now

@[simp]
theorem NewRefreshToken.toNewRefreshToken_insertedAt
    (record : NewRefreshToken) (now : Time) :
    (record.insertedAt now).toNewRefreshToken = record := rfl

inductive EmailTokenKind where
  | verify
  | reset
deriving DecidableEq, Repr

/-- A row of the `email_tokens` table. -/
structure EmailToken where
  id : String
  userId : String
  kind : EmailTokenKind
  tokenHash : String
  expiresAt : Time
  usedAt : Option Time
deriving DecidableEq, Repr

/-- The account part of the database. -/
structure AuthState where
  users : List User
  refreshTokens : List RefreshToken
  emailTokens : List EmailToken
deriving DecidableEq, Repr

/-! ## The port -/

/-- `RefreshTokenRepository` -/
inductive RefreshTokenOp where
  | insert (record : NewRefreshToken)
  | findById (id : String)
  | findByHash (hash : String)
  | markRevoked (id : String) (replacedById : Option String)
  | revokeFamily (familyId : String)
  | revokeAllForUser (userId : String)
deriving DecidableEq

abbrev RefreshTokenOp.Answer : RefreshTokenOp → Type
  | .insert _ => Unit
  | .findById _ => Option RefreshToken
  | .findByHash _ => Option RefreshToken
  | .markRevoked _ _ => Unit
  | .revokeFamily _ => Unit
  | .revokeAllForUser _ => Unit

/-- `EmailTokenRepository` -/
inductive EmailTokenOp where
  | consume (hash : String) (kind : EmailTokenKind)
deriving DecidableEq

abbrev EmailTokenOp.Answer : EmailTokenOp → Type
  | .consume _ _ => Option EmailToken

/-- `UserRepository` -/
inductive UserOp where
  | update (id : String) (patch : UserPatch)
deriving DecidableEq

abbrev UserOp.Answer : UserOp → Type
  | .update _ _ => User

/--
What the authentication use cases await: the repositories, the hasher and the
signer.  The hasher draws a salt of its own.
-/
inductive AuthOp where
  | refreshTokenRepo (op : RefreshTokenOp)
  | emailTokenRepo (op : EmailTokenOp)
  | userRepo (op : UserOp)
  | hashPassword (plain salt : String)
  | signAccess (claims : AccessTokenClaims)
deriving DecidableEq

abbrev AuthOp.Answer : AuthOp → Type
  | .refreshTokenRepo op => op.Answer
  | .emailTokenRepo op => op.Answer
  | .userRepo op => op.Answer
  | .hashPassword _ _ => String
  | .signAccess _ => String

abbrev AuthPort : Port where
  Op := AuthOp
  Answer := AuthOp.Answer

/-- A use case over the authentication port. -/
abbrev AuthProgram (Result : Type) := Program AuthPort Failure Result

/-- Await one operation of the port. -/
abbrev AuthOp.await (op : AuthOp) : AuthProgram op.Answer :=
  @Program.perform AuthPort Failure op

/-! ## `PgRefreshTokenRepository` -/

namespace PgRefreshTokenRepository

/-- A nullable foreign key into `refresh_tokens`. -/
def References (rows : List RefreshToken) (target : Option String) : Prop :=
  ∀ id ∈ target, ∃ row ∈ rows, row.id = id

instance (rows : List RefreshToken) (target : Option String) :
    Decidable (References rows target) :=
  match target with
  | none => isTrue (by simp [References])
  | some id =>
      decidable_of_iff (∃ row ∈ rows, row.id = id) (by simp [References])

/--
The first constraint of `refresh_tokens` that an insertion would break.  No
controller gives an address: the cast of `ip` to `inet` is one of `NULL`.
-/
def insertViolation (users : List User) (rows : List RefreshToken)
    (record : NewRefreshToken) : Option DatabaseError :=
  if ∃ row ∈ rows, row.id = record.id then
    some (.uniqueViolation "refresh_tokens_pkey")
  else if ∃ row ∈ rows, row.tokenHash = record.tokenHash then
    some (.uniqueViolation "refresh_tokens_token_hash_key")
  else if ¬ ∃ user ∈ users, user.id = record.userId then
    some (.foreignKeyViolation "refresh_tokens_user_id_fkey")
  else if ¬ References rows record.parentId then
    some (.foreignKeyViolation "refresh_tokens_parent_id_fkey")
  else if ¬ References rows record.replacedById then
    some (.foreignKeyViolation "refresh_tokens_replaced_by_id_fkey")
  else none

/-- `SET revoked_at = now()` -/
def revoke (now : Time) (row : RefreshToken) : RefreshToken :=
  { row with revokedAt := some now }

/-- `SET revoked_at = now(), replaced_by_id = ...` -/
def replace (now : Time) (replacedById : Option String)
    (row : RefreshToken) : RefreshToken :=
  { row with revokedAt := some now, replacedById }

/-- The statements of the repository. -/
def handle (users : List User) :
    (op : RefreshTokenOp) → Time → List RefreshToken →
      Except Failure (op.Answer × List RefreshToken)
  | .insert record, now, rows =>
      match insertViolation users rows record with
      | some cause => .error (.databaseError cause)
      | none => .ok ((), rows ++ [record.insertedAt now])
  | .findById id, _, rows =>
      .ok (first (fun row => row.id = id) rows, rows)
  | .findByHash hash, _, rows =>
      .ok (first (fun row => row.tokenHash = hash) rows, rows)
  | .markRevoked id replacedById, now, rows =>
      if (∃ row ∈ rows, row.id = id) ∧ ¬ References rows replacedById then
        .error
          (.databaseError
            (.foreignKeyViolation "refresh_tokens_replaced_by_id_fkey"))
      else
        .ok ((), updateWhere (fun row => row.id = id)
          (replace now replacedById) rows)
  | .revokeFamily familyId, now, rows =>
      .ok ((), updateWhere
        (fun row => row.familyId = familyId ∧ row.revokedAt = none)
        (revoke now) rows)
  | .revokeAllForUser userId, now, rows =>
      .ok ((), updateWhere
        (fun row => row.userId = userId ∧ row.revokedAt = none)
        (revoke now) rows)

/-- An insertion is accepted exactly when it breaks no constraint. -/
theorem insertViolation_eq_none_iff
    {users : List User} {rows : List RefreshToken}
    {record : NewRefreshToken} :
    insertViolation users rows record = none ↔
      (∀ row ∈ rows, row.id ≠ record.id) ∧
        (∀ row ∈ rows, row.tokenHash ≠ record.tokenHash) ∧
        (∃ user ∈ users, user.id = record.userId) ∧
        References rows record.parentId ∧
        References rows record.replacedById := by
  simp only [insertViolation]
  by_cases id : ∃ row ∈ rows, row.id = record.id
  · simp only [if_pos id, reduceCtorEq, false_iff]
    rcases id with ⟨row, member, same⟩
    exact fun accepted => accepted.1 row member same
  · by_cases hash : ∃ row ∈ rows, row.tokenHash = record.tokenHash
    · simp only [if_neg id, if_pos hash, reduceCtorEq, false_iff]
      rcases hash with ⟨row, member, same⟩
      exact fun accepted => accepted.2.1 row member same
    · rw [if_neg id, if_neg hash]
      push Not at id hash
      split_ifs <;> simp_all

theorem references_none (rows : List RefreshToken) :
    References rows none := by
  simp [References]

theorem references_some_iff {rows : List RefreshToken} {id : String} :
    References rows (some id) ↔ ∃ row ∈ rows, row.id = id := by
  simp [References]

@[simp]
theorem revoke_id (now : Time) (row : RefreshToken) :
    (revoke now row).id = row.id := rfl

@[simp]
theorem replace_id
    (now : Time) (replacedById : Option String) (row : RefreshToken) :
    (replace now replacedById row).id = row.id := rfl

end PgRefreshTokenRepository

/-! ## `PgEmailTokenRepository` -/

namespace PgEmailTokenRepository

def handle :
    (op : EmailTokenOp) → Time → List EmailToken →
      Except Failure (op.Answer × List EmailToken)
  | .consume hash kind, now, rows =>
      let usable := fun row : EmailToken =>
        row.tokenHash = hash ∧ row.kind = kind ∧
          row.usedAt = none ∧ now < row.expiresAt
      let use := fun row : EmailToken => { row with usedAt := some now }
      .ok ((first usable rows).map use, updateWhere usable use rows)

end PgEmailTokenRepository

/-! ## `PgUserRepository` -/

namespace PgUserRepository

def handle :
    (op : UserOp) → Time → List User → Except Failure (op.Answer × List User)
  | .update id patch, now, rows => PgUserRepository.update id patch now rows

end PgUserRepository

/-! ## The adapter -/

/-- The third-party functions behind the hasher and the signer. -/
structure AuthServices where
  sha256Sync : String → String
  argon2id : String → String → String
  signJwt : AccessTokenClaims → Time → String

/-- The authentication port on the account tables. -/
def authAdapter (services : AuthServices) :
    Adapter AuthPort Time AuthState Failure
  | .refreshTokenRepo op, now, state =>
      (PgRefreshTokenRepository.handle state.users op now
        state.refreshTokens).map
          fun answered =>
            (answered.1, { state with refreshTokens := answered.2 })
  | .emailTokenRepo op, now, state =>
      (PgEmailTokenRepository.handle op now state.emailTokens).map
        fun answered => (answered.1, { state with emailTokens := answered.2 })
  | .userRepo op, now, state =>
      (PgUserRepository.handle op now state.users).map
        fun answered => (answered.1, { state with users := answered.2 })
  | .hashPassword plain salt, _, state =>
      .ok (services.argon2id plain salt, state)
  | .signAccess claims, now, state =>
      .ok (services.signJwt claims now, state)

section Statements

variable {services : AuthServices} {now : Time} {state : AuthState}

@[simp]
theorem authAdapter_findByHash (hash : String) :
    authAdapter services (.refreshTokenRepo (.findByHash hash)) now state =
      .ok
        (first (fun row => row.tokenHash = hash) state.refreshTokens,
          state) := rfl

theorem authAdapter_findById (id : String) :
    authAdapter services (.refreshTokenRepo (.findById id)) now state =
      .ok (first (fun row => row.id = id) state.refreshTokens, state) := rfl

@[simp]
theorem authAdapter_revokeFamily (familyId : String) :
    authAdapter services (.refreshTokenRepo (.revokeFamily familyId))
        now state =
      .ok ((), { state with
        refreshTokens :=
          updateWhere
            (fun row => row.familyId = familyId ∧ row.revokedAt = none)
            (PgRefreshTokenRepository.revoke now) state.refreshTokens }) :=
  rfl

@[simp]
theorem authAdapter_revokeAllForUser (userId : String) :
    authAdapter services (.refreshTokenRepo (.revokeAllForUser userId))
        now state =
      .ok ((), { state with
        refreshTokens :=
          updateWhere
            (fun row => row.userId = userId ∧ row.revokedAt = none)
            (PgRefreshTokenRepository.revoke now) state.refreshTokens }) :=
  rfl

@[simp]
theorem authAdapter_signAccess (claims : AccessTokenClaims) :
    authAdapter services (.signAccess claims) now state =
      .ok (services.signJwt claims now, state) := rfl

/-- An update that succeeds patches the row of its id, and nothing else. -/
theorem authAdapter_update_eq_ok_iff {id : String} {patch : UserPatch}
    {answer : User} {after : AuthState} :
    authAdapter services (.userRepo (.update id patch)) now state =
        .ok (answer, after) ↔
      Storable patch.texts ∧
        ∃ user, first (fun row => row.id = id) state.users = some user ∧
          PgUserRepository.patchUser now patch user = answer ∧
            { state with
              users :=
                updateWhere (fun row => row.id = id)
                  (PgUserRepository.patchUser now patch) state.users } =
              after := by
  simp only [authAdapter, PgUserRepository.handle, map_eq_ok_iff, Prod.exists,
    Prod.mk.injEq, PgUserRepository.update_eq_ok_iff]
  constructor
  · rintro ⟨_, _, ⟨stores, user, found, rfl, rfl⟩, same, last⟩
    exact ⟨stores, user, found, same, last⟩
  · rintro ⟨stores, user, found, same, last⟩
    exact ⟨_, _, ⟨stores, user, found, rfl, rfl⟩, same, last⟩

/-- An update of a stored user patches it, if its texts can be stored. -/
theorem authAdapter_update {id : String} {patch : UserPatch} {user : User}
    (stores : Storable patch.texts)
    (stored : first (fun row => row.id = id) state.users = some user) :
    authAdapter services (.userRepo (.update id patch)) now state =
      .ok (PgUserRepository.patchUser now patch user, { state with
        users :=
          updateWhere (fun row => row.id = id)
            (PgUserRepository.patchUser now patch) state.users }) :=
  authAdapter_update_eq_ok_iff.mpr ⟨stores, user, stored, rfl, rfl⟩

theorem authAdapter_update_error {id : String} {patch : UserPatch}
    {error : Failure}
    (fails : PgUserRepository.update id patch now state.users = .error error) :
    authAdapter services (.userRepo (.update id patch)) now state =
      .error error := by
  simp only [authAdapter, PgUserRepository.handle, fails]
  rfl

/-- An insertion that breaks no constraint appends its row. -/
theorem authAdapter_insert {record : NewRefreshToken}
    (accepted :
      PgRefreshTokenRepository.insertViolation state.users
        state.refreshTokens record = none) :
    authAdapter services (.refreshTokenRepo (.insert record)) now state =
      .ok ((), { state with
        refreshTokens :=
          state.refreshTokens ++ [record.insertedAt now] }) := by
  simp only [authAdapter, PgRefreshTokenRepository.handle, accepted]
  rfl

theorem authAdapter_insert_refused
    {record : NewRefreshToken} {cause : DatabaseError}
    (refused :
      PgRefreshTokenRepository.insertViolation state.users
        state.refreshTokens record = some cause) :
    authAdapter services (.refreshTokenRepo (.insert record)) now state =
      .error (.databaseError cause) := by
  simp only [authAdapter, PgRefreshTokenRepository.handle, refused]
  rfl

/-- Marking a token revoked succeeds if the named successor exists. -/
theorem authAdapter_markRevoked
    {id : String} {replacedById : Option String}
    (references :
      PgRefreshTokenRepository.References state.refreshTokens replacedById) :
    authAdapter services (.refreshTokenRepo (.markRevoked id replacedById))
        now state =
      .ok ((), { state with
        refreshTokens :=
          updateWhere (fun row => row.id = id)
            (PgRefreshTokenRepository.replace now replacedById)
            state.refreshTokens }) := by
  simp only [authAdapter, PgRefreshTokenRepository.handle, references,
    not_true_eq_false, and_false, if_false]
  rfl

theorem authAdapter_markRevoked_absent
    {id : String} {replacedById : Option String}
    (absent : ¬ ∃ row ∈ state.refreshTokens, row.id = id) :
    authAdapter services (.refreshTokenRepo (.markRevoked id replacedById))
        now state =
      .ok ((), { state with
        refreshTokens :=
          updateWhere (fun row => row.id = id)
            (PgRefreshTokenRepository.replace now replacedById)
            state.refreshTokens }) := by
  simp only [authAdapter, PgRefreshTokenRepository.handle, absent,
    false_and, if_false]
  rfl

theorem authAdapter_markRevoked_refused
    {id : String} {replacedById : Option String}
    (present : ∃ row ∈ state.refreshTokens, row.id = id)
    (dangling :
      ¬ PgRefreshTokenRepository.References state.refreshTokens
        replacedById) :
    authAdapter services (.refreshTokenRepo (.markRevoked id replacedById))
        now state =
      .error
        (.databaseError
          (.foreignKeyViolation "refresh_tokens_replaced_by_id_fkey")) := by
  simp only [authAdapter, PgRefreshTokenRepository.handle, present, dangling,
    not_false_eq_true, and_self, if_true]
  rfl

end Statements

end ChatBackend.Auth.TokenStore
