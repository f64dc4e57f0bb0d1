import ChatBackend.Auth.Accounts
import ChatBackend.Auth.SessionLedger

/-!
# The book of accounts

What the authentication use cases are for, without tables, hashes or salts.  The
book keeps for every id the account with its password in clear, for every email
the id that is registered under it, and for every raw token that was mailed the
link it redeems.  The sessions are those of the ledger.  Of the database it is
known only that some texts cannot be stored.

The book answers the calls of `Accounts` and is the specification the account
tables are compared with.
-/

namespace ChatBackend.Auth.AccountBook

open ChatBackend.Auth.TokenStore
open ChatBackend.Auth.Sessions
open ChatBackend.Auth.SessionLedger
open ChatBackend.Auth.EmailTokens
open ChatBackend.Auth.Accounts

/-- What is known about a user. -/
structure Account where
  email : String
  password : String
  displayName : String
  avatarUrl : Option String
  verifiedAt : Option Time

def Account.profile (account : Account) (id : String) : PublicUser where
  id := id
  email := account.email
  displayName := account.displayName
  avatarUrl := account.avatarUrl
  emailVerifiedAt := account.verifiedAt

def Account.patched (account : Account) (input : UpdateProfile.Input) :
    Account :=
  { account with
    displayName := input.displayName.getD account.displayName
    avatarUrl := input.avatarUrl.getD account.avatarUrl }

/-- The account of a registration. -/
def newAccount (deps : AccountDeps) (input : RegisterUser.Input) :
    Account where
  email := deps.normalizeEmail input.email
  password := input.password
  displayName := input.displayName
  avatarUrl := none
  verifiedAt := none

/-- What a mailed token is good for. -/
structure Link where
  kind : EmailTokenKind
  userId : String
  expiresAt : Time
  used : Bool

def Link.Redeemable (link : Link) (kind : EmailTokenKind) (now : Time) :
    Prop :=
  link.kind = kind ∧ link.used = false ∧ now < link.expiresAt

instance (link : Link) (kind : EmailTokenKind) (now : Time) :
    Decidable (link.Redeemable kind now) :=
  inferInstanceAs (Decidable (_ ∧ _ ∧ _))

def verificationMail (deps : AccountDeps) (email raw : String) : Mail :=
  .verification email (deps.emailVerifyUrlBase ++ "?token=" ++ raw)

def resetMail (deps : AccountDeps) (email raw : String) : Mail :=
  .passwordReset email (deps.emailResetUrlBase ++ "?token=" ++ raw)

/-- The accounts, their links and sessions, and the mails sent. -/
structure Book where
  accounts : String → Option Account
  registered : String → Option String
  links : String → Option Link
  sessions : Ledger
  outbox : List Mail

namespace Book

def empty : Book where
  accounts := fun _ => none
  registered := fun _ => none
  links := fun _ => none
  sessions := Ledger.empty
  outbox := []

/-- The account registered under an email, with its id. -/
def find (book : Book) (email : String) : Option (String × Account) :=
  (book.registered email).bind fun id =>
    (book.accounts id).map fun account => (id, account)

/-- A call with a text that the database cannot store is refused. -/
def refusing (book : Book) (texts : List (Option String))
    (answered : Except Failure AccountsReply × Book) :
    Except Failure AccountsReply × Book :=
  if Storable texts then answered
  else (.error (.databaseError .characterNotInRepertoire), book)

theorem refusing_of_storable {texts : List (Option String)}
    (stores : Storable texts) (book : Book)
    (answered : Except Failure AccountsReply × Book) :
    book.refusing texts answered = answered :=
  if_pos stores

theorem refusing_of_not {texts : List (Option String)}
    (refused : ¬ Storable texts) (book : Book)
    (answered : Except Failure AccountsReply × Book) :
    book.refusing texts answered =
      (.error (.databaseError .characterNotInRepertoire), book) :=
  if_neg refused

/-- Enter a new account. -/
def enter (book : Book) (id : String) (account : Account) : Book :=
  { book with
    accounts := Function.update book.accounts id (some account)
    registered := Function.update book.registered account.email (some id) }

/-- Replace what is known about an account. -/
def revise (book : Book) (id : String) (account : Account) : Book :=
  { book with
    accounts := Function.update book.accounts id (some account) }

/-- Mail a link. -/
def grant (book : Book) (raw : String) (link : Link) (mail : Mail) : Book :=
  { book with
    links := Function.update book.links raw (some link)
    outbox := book.outbox ++ [mail] }

/-- The user a raw token redeems a link of, and the book afterwards. -/
def redeem (book : Book) (raw : String) (kind : EmailTokenKind)
    (now : Time) : Option (String × Book) :=
  (book.links raw).bind fun link =>
    if link.Redeemable kind now then
      some (link.userId, { book with
        links :=
          Function.update book.links raw (some { link with used := true }) })
    else none

/-- Open a session. -/
def signIn (deps : AccountsDeps) (book : Book) (draws : SessionDraws)
    (id : String) (account : Account) (now : Time) :
    Except Failure AccountsReply × Book :=
  (.ok (.signedIn
      { Ledger.session deps.toSessionDeps draws id now with
        user := account.profile id }),
    { book with
      sessions :=
        (book.sessions.step deps.toSessionDeps
          (.createSession draws id none, now)).2 })

/-- The link a registration or a request for verification mails. -/
def grantVerification (deps : AccountsDeps) (book : Book)
    (draws : EmailDraws) (id email : String) : Book :=
  book.grant draws.raw
    { kind := .verify
      userId := id
      expiresAt := draws.now + 24 * 60 * 60 * 1000
      used := false }
    (verificationMail deps.toAccountDeps email draws.raw)

def grantReset (deps : AccountsDeps) (book : Book) (draws : EmailDraws)
    (id email : String) : Book :=
  book.grant draws.raw
    { kind := .reset
      userId := id
      expiresAt := draws.now + 2 * 60 * 60 * 1000
      used := false }
    (resetMail deps.toAccountDeps email draws.raw)

def register (deps : AccountsDeps) (book : Book) (input : RegisterUser.Input)
    (draws : RegisterUser.Draws) (now : Time) :
    Except Failure AccountsReply × Book :=
  book.refusing [some (deps.normalizeEmail input.email)] <|
    match book.registered (deps.normalizeEmail input.email) with
    | some _ => (.error (.conflictError "Email already in use"), book)
    | none =>
        book.refusing [some input.displayName] <|
          let account := newAccount deps.toAccountDeps input
          let signedIn :=
            (book.enter draws.userId account).signIn deps draws.session
              draws.userId account now
          (signedIn.1,
            signedIn.2.grantVerification deps draws.mail draws.userId
              account.email)

def login (deps : AccountsDeps) (book : Book) (input : LoginUser.Input)
    (draws : SessionDraws) (now : Time) :
    Except Failure AccountsReply × Book :=
  book.refusing [some (deps.normalizeEmail input.email)] <|
    match book.find (deps.normalizeEmail input.email) with
    | none => (.error (.authError "Invalid credentials"), book)
    | some (id, account) =>
        if account.password = input.password then
          book.signIn deps draws id account now
        else (.error (.authError "Invalid credentials"), book)

def me (book : Book) (id : String) : Except Failure AccountsReply :=
  match book.accounts id with
  | none => .error (.notFoundError "User not found")
  | some account => .ok (.user (account.profile id))

def updateProfile (deps : AccountsDeps) (book : Book) (id : String)
    (input : UpdateProfile.Input) : Except Failure AccountsReply × Book :=
  if input = ⟨none, none⟩ then (.error deps.noColumns, book)
  else
    book.refusing input.patch.texts <|
      match book.accounts id with
      | none => (.error .typeError, book)
      | some account =>
          (.ok (.user ((account.patched input).profile id)),
            book.revise id (account.patched input))

def requestEmailVerification (deps : AccountsDeps) (book : Book)
    (id : String) (draws : EmailDraws) : Book :=
  match book.accounts id with
  | none => book
  | some account =>
      if account.verifiedAt = none then
        book.grantVerification deps draws id account.email
      else book

def requestPasswordReset (deps : AccountsDeps) (book : Book)
    (email : String) (draws : EmailDraws) :
    Except Failure AccountsReply × Book :=
  book.refusing [some (deps.normalizeEmail email)] <|
    match book.find (deps.normalizeEmail email) with
    | none => (.ok .done, book)
    | some (id, account) =>
        (.ok .done, book.grantReset deps draws id account.email)

def confirmEmailVerification (book : Book) (raw : String)
    (verifiedAt now : Time) : Except Failure AccountsReply × Book :=
  match book.redeem raw .verify now with
  | none =>
      (.error (.authError "Invalid or expired verification token"), book)
  | some (id, redeemed) =>
      match redeemed.accounts id with
      | none => (.error .typeError, redeemed)
      | some account =>
          (.ok .done,
            redeemed.revise id { account with verifiedAt := some verifiedAt })

def confirmPasswordReset (book : Book) (raw newPassword : String)
    (now : Time) : Except Failure AccountsReply × Book :=
  match book.redeem raw .reset now with
  | none => (.error (.authError "Invalid or expired reset token"), book)
  | some (id, redeemed) =>
      match redeemed.accounts id with
      | none => (.error .typeError, redeemed)
      | some account =>
          let revised :=
            redeemed.revise id { account with password := newPassword }
          (.ok .done,
            { revised with sessions := revised.sessions.killUser id })

/-- A call on the ledger of sessions. -/
def withSessions (deps : AccountsDeps) (book : Book)
    (call : SessionCall × Time) :
    Except Failure (Option Session) × Book :=
  let answered := book.sessions.step deps.toSessionDeps call
  (answered.1, { book with sessions := answered.2 })

/-- The reply to a call on the sessions. -/
def sessionReply : Option Session → AccountsReply
  | some session => .refreshed session
  | none => .done

/-- The book's answer to a call, the server's clock being at `now`. -/
def step (deps : AccountsDeps) (book : Book) :
    AccountsCall × Time → Except Failure AccountsReply × Book
  | (.register input draws, now) => book.register deps input draws now
  | (.login input draws, now) => book.login deps input draws now
  | (.refresh raw sessionMeta draws, now) =>
      let answered :=
        book.withSessions deps (.refresh draws raw sessionMeta, now)
      (answered.1.map sessionReply, answered.2)
  | (.logout raw, now) =>
      let answered := book.withSessions deps (.revoke raw, now)
      (answered.1.map sessionReply, answered.2)
  | (.me id, _) => (book.me id, book)
  | (.updateProfile id input, _) => book.updateProfile deps id input
  | (.requestEmailVerification id draws, _) =>
      (.ok .done, book.requestEmailVerification deps id draws)
  | (.confirmEmailVerification raw verifiedAt, now) =>
      book.confirmEmailVerification raw verifiedAt now
  | (.requestPasswordReset email draws, _) =>
      book.requestPasswordReset deps email draws
  | (.confirmPasswordReset raw newPassword _, now) =>
      book.confirmPasswordReset raw newPassword now

def machine (deps : AccountsDeps) :
    Transition.Machine Book (AccountsCall × Time)
      (Except Failure AccountsReply) where
  step := step deps

end Book

end ChatBackend.Auth.AccountBook
