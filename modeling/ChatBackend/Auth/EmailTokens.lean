import ChatBackend.Auth.Sessions

/-!
# Email tokens

The use cases that mail a link with a token and those that redeem it.  They
need more of the account tables than the session use cases do, so the port here
has the authentication port as a part.  A raw token leaves the server only in
the link of a mail; the table stores its hash.

The console sender logs a mail and cannot fail; what it logs is left out.
-/

namespace ChatBackend.Auth.EmailTokens

open Effects
open Relational
open ChatBackend.Auth.TokenStore
open ChatBackend.Auth.Sessions

/-! ## Rows -/

/-- What a caller supplies for an email token: the row without `used_at`. -/
structure NewEmailToken where
  id : String
  userId : String
  kind : EmailTokenKind
  tokenHash : String
  expiresAt : Time
deriving DecidableEq, Repr

/-- The row of a record at its insertion. -/
def NewEmailToken.row (record : NewEmailToken) : EmailToken where
  id := record.id
  userId := record.userId
  kind := record.kind
  tokenHash := record.tokenHash
  expiresAt := record.expiresAt
  usedAt := none

/-- What a caller supplies for a user: the row without its two times. -/
structure NewUser where
  id : String
  email : String
  passwordHash : String
  displayName : String
  avatarUrl : Option String
  emailVerifiedAt : Option Time
deriving DecidableEq, Repr

/--
The texts that come from requests; a hash of a password never has a letter
U+0000.
-/
def NewUser.texts (record : NewUser) : List (Option String) :=
  [some record.email, some record.displayName, record.avatarUrl]

def NewUser.insertedAt (record : NewUser) (now : Time) : User where
  id := record.id
  email := record.email
  passwordHash := record.passwordHash
  displayName := record.displayName
  avatarUrl := record.avatarUrl
  emailVerifiedAt := record.emailVerifiedAt
  createdAt := now
  updatedAt := now

/-! ## The port -/

/-- What the account use cases await. -/
inductive AccountOp where
  | auth (op : AuthOp)
  | insertEmailToken (record : NewEmailToken)
  | createUser (record : NewUser)
  | findUserById (id : String)
  | findUserByEmail (email : String)
  | sendVerification (toAddress link : String)
  | sendPasswordReset (toAddress link : String)
deriving DecidableEq

abbrev AccountOp.Answer : AccountOp → Type
  | .auth op => op.Answer
  | .insertEmailToken _ => Unit
  | .createUser _ => User
  | .findUserById _ => Option User
  | .findUserByEmail _ => Option User
  | .sendVerification _ _ => Unit
  | .sendPasswordReset _ _ => Unit

abbrev AccountPort : Port where
  Op := AccountOp
  Answer := AccountOp.Answer

/-- A use case over the account port. -/
abbrev AccountProgram (Result : Type) := Program AccountPort Failure Result

/-- Await one operation of the port. -/
abbrev AccountOp.await (op : AccountOp) : AccountProgram op.Answer :=
  @Program.perform AccountPort Failure op

/-- The authentication port is a part of the account port. -/
def authPart : AuthPort.Embedding AccountPort where
  op := .auth
  answer := fun _ answer => answer

/-- A use case of the authentication port. -/
abbrev auth {Result : Type} (program : AuthProgram Result) :
    AccountProgram Result :=
  program.embed authPart

/-! ## The adapter -/

namespace PgEmailTokenRepository

/-- The first constraint of `email_tokens` that an insertion would break. -/
def insertViolation (users : List User) (rows : List EmailToken)
    (record : NewEmailToken) : Option DatabaseError :=
  if ∃ row ∈ rows, row.id = record.id then
    some (.uniqueViolation "email_tokens_pkey")
  else if ∃ row ∈ rows, row.tokenHash = record.tokenHash then
    some (.uniqueViolation "email_tokens_token_hash_key")
  else if ¬ ∃ user ∈ users, user.id = record.userId then
    some (.foreignKeyViolation "email_tokens_user_id_fkey")
  else none

/-- An insertion that is accepted inserts a new hash for a stored user. -/
theorem insertViolation_eq_none
    {users : List User} {rows : List EmailToken} {record : NewEmailToken}
    (accepted : insertViolation users rows record = none) :
    (∀ row ∈ rows, row.tokenHash ≠ record.tokenHash) ∧
      ∃ user ∈ users, user.id = record.userId := by
  unfold insertViolation at accepted
  split_ifs at accepted with id hash owner
  push Not at hash
  exact ⟨hash, owner⟩

end PgEmailTokenRepository

namespace PgUserRepository

/-- The first constraint that would break, if the texts can be stored. -/
def createViolation (rows : List User) (record : NewUser) :
    Option DatabaseError :=
  if ¬ Storable record.texts then
    some .characterNotInRepertoire
  else if ∃ row ∈ rows, row.id = record.id then
    some (.uniqueViolation "users_pkey")
  else if ∃ row ∈ rows, row.email = record.email then
    some (.uniqueViolation "users_email_key")
  else none

theorem createViolation_eq_none_iff {rows : List User} {record : NewUser} :
    createViolation rows record = none ↔
      Storable record.texts ∧ (∀ row ∈ rows, row.id ≠ record.id) ∧
        ∀ row ∈ rows, row.email ≠ record.email := by
  unfold createViolation
  split_ifs with stores sameId sameEmail
  · refine iff_of_false id ?_
    rintro ⟨-, newId, -⟩
    obtain ⟨row, member, same⟩ := sameId
    exact newId row member same
  · refine iff_of_false id ?_
    rintro ⟨-, -, newEmail⟩
    obtain ⟨row, member, same⟩ := sameEmail
    exact newEmail row member same
  · push Not at sameId sameEmail
    exact iff_of_true rfl ⟨stores, sameId, sameEmail⟩
  · exact iff_of_false id fun accepted => stores accepted.1

end PgUserRepository

/-- The account port on the account tables. -/
def accountAdapter (services : AuthServices) :
    Adapter AccountPort Time AuthState Failure
  | .auth op, now, state => authAdapter services op now state
  | .insertEmailToken record, _, state =>
      match PgEmailTokenRepository.insertViolation state.users
          state.emailTokens record with
      | some cause => .error (.databaseError cause)
      | none =>
          .ok ((), { state with
            emailTokens := state.emailTokens ++ [record.row] })
  | .createUser record, now, state =>
      match PgUserRepository.createViolation state.users record with
      | some cause => .error (.databaseError cause)
      | none =>
          .ok (record.insertedAt now, { state with
            users := state.users ++ [record.insertedAt now] })
  | .findUserById id, _, state =>
      .ok (first (fun user => user.id = id) state.users, state)
  | .findUserByEmail email, _, state => do
      requireStorable [some email]
      return (first (fun user => user.email = email) state.users, state)
  | .sendVerification _ _, _, state => .ok ((), state)
  | .sendPasswordReset _ _, _, state => .ok ((), state)

theorem accountAdapter_findUserByEmail_eq_ok_iff {services : AuthServices}
    {now : Time} {state after : AuthState} {email : String}
    {answer : Option User} :
    accountAdapter services (.findUserByEmail email) now state =
        .ok (answer, after) ↔
      storable email = true ∧
        first (fun user => user.email = email) state.users = answer ∧
          state = after := by
  simp only [accountAdapter, bind_eq_ok_iff, requireStorable_eq_ok_iff,
    storable_singleton, exists_const]
  simp [pure, Except.pure]

/-! ## Dependencies -/

/--
The services and settings of the use cases.  `toLowerCase` and `trim` are those
of the runtime's strings.
-/
structure AccountDeps extends SessionDeps where
  toLowerCase : String → String
  trim : String → String
  emailVerifyUrlBase : String
  emailResetUrlBase : String

/-- `email.toLowerCase().trim()` -/
def AccountDeps.normalizeEmail (deps : AccountDeps) (email : String) :
    String :=
  deps.trim (deps.toLowerCase email)

/-- What the making of one email token reads from its surroundings. -/
structure EmailDraws where
  raw : String
  id : String
  now : Time
deriving DecidableEq, Repr

/-- The record of a verification token, which is valid for 24 hours. -/
def verificationToken (deps : AccountDeps) (draws : EmailDraws)
    (userId : String) : NewEmailToken where
  id := draws.id
  userId := userId
  kind := .verify
  tokenHash := deps.sha256Sync draws.raw
  expiresAt := draws.now + 24 * 60 * 60 * 1000

/-- The record of a reset token, which is valid for two hours. -/
def resetToken (deps : AccountDeps) (draws : EmailDraws)
    (userId : String) : NewEmailToken where
  id := draws.id
  userId := userId
  kind := .reset
  tokenHash := deps.sha256Sync draws.raw
  expiresAt := draws.now + 2 * 60 * 60 * 1000

/-! ## `RegisterUser` -/

namespace RegisterUser

structure Input where
  email : String
  password : String
  displayName : String
  userAgent : Option HeaderText
  ip : Option String
deriving DecidableEq, Repr

/-- What one registration reads from the clock and the generators. -/
structure Draws where
  salt : String
  userId : String
  session : SessionDraws
  mail : EmailDraws
deriving DecidableEq, Repr

structure Registration extends Session where
  user : PublicUser
deriving DecidableEq, Repr

/-- The user `execute` creates. -/
def newUser (deps : AccountDeps) (input : Input) (draws : Draws)
    (passwordHash : String) : NewUser where
  id := draws.userId
  email := deps.normalizeEmail input.email
  passwordHash := passwordHash
  displayName := input.displayName
  avatarUrl := none
  emailVerifiedAt := none

/-- `execute` up to the return of its result. -/
def execute (deps : AccountDeps) (input : Input) (draws : Draws) :
    AccountProgram Registration := do
  match ← AccountOp.await
      (.findUserByEmail (deps.normalizeEmail input.email)) with
  | some _ => .fail (.conflictError "Email already in use")
  | none =>
      let passwordHash ← auth (passwordHasher.hash input.password draws.salt)
      let user ← AccountOp.await
        (.createUser (newUser deps input draws passwordHash))
      let session ← auth <| createSession deps.toSessionDeps draws.session
        draws.userId (some { userAgent := input.userAgent, ip := input.ip })
      return { session with user := toPublicUser user }

/-- The mail that `execute` sends without waiting for it. -/
def sendVerificationEmail (deps : AccountDeps) (draws : EmailDraws)
    (userId email : String) : AccountProgram Unit := do
  AccountOp.await (.insertEmailToken (verificationToken deps draws userId))
  AccountOp.await
    (.sendVerification email
      (deps.emailVerifyUrlBase ++ "?token=" ++ draws.raw))

end RegisterUser

/-! ## Requests -/

namespace RequestEmailVerification

def execute (deps : AccountDeps) (userId : String) (draws : EmailDraws) :
    AccountProgram Unit := do
  match ← AccountOp.await (.findUserById userId) with
  | none => return
  | some user =>
      match user.emailVerifiedAt with
      | some _ => return
      | none =>
          AccountOp.await
            (.insertEmailToken (verificationToken deps draws userId))
          AccountOp.await
            (.sendVerification user.email
              (deps.emailVerifyUrlBase ++ "?token=" ++ draws.raw))

end RequestEmailVerification

namespace RequestPasswordReset

def execute (deps : AccountDeps) (email : String) (draws : EmailDraws) :
    AccountProgram Unit := do
  match ← AccountOp.await
      (.findUserByEmail (deps.normalizeEmail email)) with
  | none => return
  | some user =>
      AccountOp.await (.insertEmailToken (resetToken deps draws user.id))
      AccountOp.await
        (.sendPasswordReset user.email
          (deps.emailResetUrlBase ++ "?token=" ++ draws.raw))

end RequestPasswordReset

/-! ## Confirmations -/

namespace ConfirmEmailVerification

/-- The clock is read when the token has been consumed. -/
def execute (services : AuthServices) (now : Time) (rawToken : String) :
    AuthProgram Unit := do
  match ← emailTokenRepo.consume (services.sha256Sync rawToken) .verify with
  | none => .fail (.authError "Invalid or expired verification token")
  | some token =>
      let _ ← userRepo.update token.userId
        { emailVerifiedAt := some (some now) }
      return

end ConfirmEmailVerification

/-! ## Calls -/

/-- The calls that issue and redeem email tokens. -/
inductive EmailCall where
  | registerUser (input : RegisterUser.Input) (draws : RegisterUser.Draws)
  | requestEmailVerification (userId : String) (draws : EmailDraws)
  | requestPasswordReset (email : String) (draws : EmailDraws)
  | confirmEmailVerification (rawToken : String) (now : Time)
  | confirmPasswordReset (rawToken newPassword salt : String)
deriving DecidableEq, Repr

/--
The program of a call.  The mail of a registration goes on after the
registration has returned, and whether it fails is not looked at.
-/
def EmailCall.program (deps : AccountDeps) : EmailCall → AccountProgram Unit
  | .registerUser input draws => do
      let _ ← RegisterUser.execute deps input draws
      RegisterUser.sendVerificationEmail deps draws.mail draws.userId
        (deps.normalizeEmail input.email)
  | .requestEmailVerification userId draws =>
      RequestEmailVerification.execute deps userId draws
  | .requestPasswordReset email draws =>
      RequestPasswordReset.execute deps email draws
  | .confirmEmailVerification rawToken now =>
      auth (ConfirmEmailVerification.execute deps.toAuthServices now rawToken)
  | .confirmPasswordReset rawToken newPassword salt =>
      auth (ConfirmPasswordReset.execute deps.toAuthServices salt rawToken
        newPassword)

end ChatBackend.Auth.EmailTokens
