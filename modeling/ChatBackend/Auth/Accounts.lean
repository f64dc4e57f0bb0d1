import ChatBackend.Auth.EmailTokens
import ChatBackend.Transition.Runs

/-!
# Accounts

The authentication use cases as one system: registration, login, the sessions,
the current user and its profile, and the two kinds of links that are mailed.
The port adds to the account port the check of a password against its hash and
the update of a profile; the state adds to the tables the mails sent so far.

`Bun.password.verify` throws on a text that is not a hash.  The texts it is
given here are the hashes the same hasher made, on which it answers.
-/

namespace ChatBackend.Auth.Accounts

open Effects
open ChatBackend.Auth.TokenStore
open ChatBackend.Auth.Sessions
open ChatBackend.Auth.EmailTokens

/-! ## Mails -/

/-- A mail of the email sender: its address and its link. -/
inductive Mail where
  | verification (toAddress link : String)
  | passwordReset (toAddress link : String)
deriving DecidableEq, Repr

def Mail.address : Mail → String
  | .verification toAddress _ => toAddress
  | .passwordReset toAddress _ => toAddress

/-- The mail an operation sends. -/
def mailOf : AccountOp → List Mail
  | .sendVerification toAddress link => [.verification toAddress link]
  | .sendPasswordReset toAddress link => [.passwordReset toAddress link]
  | _ => []

/-- The account tables and the mails sent. -/
structure AccountsState where
  tables : AuthState
  outbox : List Mail
deriving DecidableEq, Repr

/-! ## The port -/

/-- What the use cases need of the hasher and of the database client besides. -/
structure AccountsDeps extends AccountDeps where
  argon2verify : String → String → Bool
  /-- The rejection of `UPDATE` with no columns. -/
  noColumns : Failure

inductive AccountsOp where
  | account (op : AccountOp)
  | verifyPassword (plain passwordHash : String)
  | updateUser (id : String) (patch : UserPatch)
deriving DecidableEq

abbrev AccountsOp.Answer : AccountsOp → Type
  | .account op => op.Answer
  | .verifyPassword _ _ => Bool
  | .updateUser _ _ => User

abbrev AccountsPort : Port where
  Op := AccountsOp
  Answer := AccountsOp.Answer

abbrev AccountsProgram (Result : Type) := Program AccountsPort Failure Result

/-- Await one operation of the port. -/
abbrev AccountsOp.await (op : AccountsOp) : AccountsProgram op.Answer :=
  @Program.perform AccountsPort Failure op

/-- `userRepo.update`, over the port. -/
def updateUser (id : String) (patch : UserPatch) : AccountsProgram User :=
  AccountsOp.await (.updateUser id patch)

/-- The account port is a part of the port. -/
def accountPart : AccountPort.Embedding AccountsPort where
  op := .account
  answer := fun _ answer => answer

/-- A use case of the account port. -/
abbrev account {Result : Type} (program : AccountProgram Result) :
    AccountsProgram Result :=
  program.embed accountPart

/-! ## The adapter -/

/-- The account port, with the mails it sends. -/
def mailingAdapter (services : AuthServices) :
    Adapter AccountPort Time AccountsState Failure := fun op now state =>
  (accountAdapter services op now state.tables).map fun answered =>
    (answered.1,
      { tables := answered.2, outbox := state.outbox ++ mailOf op })

def accountsAdapter (deps : AccountsDeps) :
    Adapter AccountsPort Time AccountsState Failure
  | .account op, now, state => mailingAdapter deps.toAuthServices op now state
  | .verifyPassword plain passwordHash, _, state =>
      .ok (deps.argon2verify plain passwordHash, state)
  | .updateUser id patch, now, state =>
      if patch = {} then .error deps.noColumns
      else
        mailingAdapter deps.toAuthServices
          (.auth (.userRepo (.update id patch))) now state

/-- The account port works on the whole state. -/
def accountComponent (deps : AccountsDeps) :
    Program.Component accountPart (mailingAdapter deps.toAuthServices)
      (accountsAdapter deps) where
  get state := state
  set state _ := state
  get_set _ _ := rfl
  set_get _ := rfl
  set_set _ _ _ := rfl
  carries _ _ _ := rfl

/-- The authentication port works on the tables. -/
def authComponent (services : AuthServices) :
    Program.Component authPart (authAdapter services)
      (mailingAdapter services) where
  get state := state.tables
  set tables state := { state with tables }
  get_set _ _ := rfl
  set_get _ := rfl
  set_set _ _ _ := rfl
  carries op now state := by
    have nothingSent : state.outbox ++ mailOf (.auth op) = state.outbox :=
      List.append_nil _
    change Except.map _ (Except.map _
      (authAdapter services op now state.tables)) = _
    rw [show mailOf (authPart.op op) = mailOf (.auth op) from rfl, nothingSent]
    cases authAdapter services op now state.tables <;> rfl

/-! ## Use cases -/

namespace LoginUser

structure Input where
  email : String
  password : String
  userAgent : Option HeaderText
  ip : Option String
deriving DecidableEq, Repr

def execute (deps : AccountsDeps) (input : Input) (draws : SessionDraws) :
    AccountsProgram RegisterUser.Registration := do
  match ← AccountsOp.await
      (.account (.findUserByEmail (deps.normalizeEmail input.email))) with
  | none => .fail (.authError "Invalid credentials")
  | some user =>
      let valid ← AccountsOp.await
        (.verifyPassword input.password user.passwordHash)
      if valid then do
        let session ← account <| auth <|
          createSession deps.toSessionDeps draws user.id
            (some { userAgent := input.userAgent, ip := input.ip })
        return { session with user := toPublicUser user }
      else .fail (.authError "Invalid credentials")

end LoginUser

def GetCurrentUser.execute (userId : String) : AccountsProgram PublicUser := do
  match ← AccountsOp.await (.account (.findUserById userId)) with
  | none => .fail (.notFoundError "User not found")
  | some user => return toPublicUser user

/-! ## Calls -/

/-- The requests to the system, with what each of them draws. -/
inductive AccountsCall where
  | register (input : RegisterUser.Input) (draws : RegisterUser.Draws)
  | login (input : LoginUser.Input) (draws : SessionDraws)
  | refresh (rawToken : String) (sessionMeta : Option SessionMeta)
      (draws : SessionDraws)
  | logout (rawToken : String)
  | me (userId : String)
  | updateProfile (userId : String) (input : UpdateProfile.Input)
  | requestEmailVerification (userId : String) (draws : EmailDraws)
  | confirmEmailVerification (rawToken : String) (now : Time)
  | requestPasswordReset (email : String) (draws : EmailDraws)
  | confirmPasswordReset (rawToken newPassword salt : String)
deriving DecidableEq, Repr

inductive AccountsReply where
  | signedIn (registration : RegisterUser.Registration)
  | refreshed (session : Session)
  | user (dto : PublicUser)
  | done
deriving DecidableEq, Repr

/-- The program of a call, up to its reply. -/
def AccountsCall.program (deps : AccountsDeps) :
    AccountsCall → AccountsProgram AccountsReply
  | .register input draws =>
      .signedIn <$>
        account (RegisterUser.execute deps.toAccountDeps input draws)
  | .login input draws => .signedIn <$> LoginUser.execute deps input draws
  | .refresh rawToken sessionMeta draws =>
      .refreshed <$> account (auth
        (RefreshSession.execute deps.toSessionDeps draws rawToken sessionMeta))
  | .logout rawToken =>
      (fun _ => .done) <$>
        account (auth (RevokeSession.execute deps.toSessionDeps rawToken))
  | .me userId => .user <$> GetCurrentUser.execute userId
  | .updateProfile userId input =>
      .user <$> UpdateProfile.execute updateUser userId input
  | .requestEmailVerification userId draws =>
      (fun _ => .done) <$> account
        (RequestEmailVerification.execute deps.toAccountDeps userId draws)
  | .confirmEmailVerification rawToken now =>
      (fun _ => .done) <$> account (auth
        (ConfirmEmailVerification.execute deps.toAuthServices now rawToken))
  | .requestPasswordReset email draws =>
      (fun _ => .done) <$>
        account (RequestPasswordReset.execute deps.toAccountDeps email draws)
  | .confirmPasswordReset rawToken newPassword salt =>
      (fun _ => .done) <$> account (auth
        (ConfirmPasswordReset.execute deps.toAuthServices salt rawToken
          newPassword))

/-- What a call that has replied goes on with; nobody waits for its end. -/
def AccountsCall.background (deps : AccountsDeps) :
    AccountsCall → AccountsProgram Unit
  | .register input draws =>
      account (RegisterUser.sendVerificationEmail deps.toAccountDeps draws.mail
        draws.userId (deps.normalizeEmail input.email))
  | _ => .done ()

/-- The calls one after another, each with its background. -/
def accountsMachine (deps : AccountsDeps) :
    Transition.Machine AccountsState (AccountsCall × Time)
      (Except Failure AccountsReply) where
  step := fun state (call, now) =>
    match (call.program deps).run (accountsAdapter deps) now state with
    | (.error error, after) => (.error error, after)
    | (.ok reply, after) =>
        (.ok reply,
          ((call.background deps).run (accountsAdapter deps) now after).2)

end ChatBackend.Auth.Accounts
