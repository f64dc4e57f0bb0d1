import ChatBackend.Auth.AccountBook
import ChatBackend.Auth.SessionRefinement
import ChatBackend.Effects.Postcondition
import ChatBackend.Relational.Maps
import Mathlib.Data.List.Flatten

/-!
# How the account tables represent the book of accounts

The users tabulate the accounts by id and by email, the email tokens tabulate
the links by the hash of the raw token, and the refresh tokens represent the
ledger of sessions.  For each of the three there are the statements that move it
along with the book.

A history of calls is `Fresh` if its draws identify and its hashes tell apart
what occurs in it.  These are the assumptions of the ledger, for the ids and
hashes of all three tables, and that the password check accepts a password of
the history against a hash of the history exactly when the hash was made of it.
-/

namespace ChatBackend.Auth.AccountRefinement

open Effects
open Relational
open ChatBackend.Auth.TokenStore
open ChatBackend.Auth.Sessions
open ChatBackend.Auth.SessionLedger
open ChatBackend.Auth.EmailTokens
open ChatBackend.Auth.Accounts
open ChatBackend.Auth.AccountBook
open ChatBackend.Auth.SessionRefinement (sessionMachine Represents)

/-! ## Draws -/

/-- The ids drawn for families and refresh tokens. -/
def sessionIds : AccountsCall → List String
  | .register _ draws => [draws.session.familyId, draws.session.id]
  | .login _ draws => [draws.familyId, draws.id]
  | .refresh _ _ draws => [draws.id]
  | _ => []

/-- The raw refresh tokens drawn. -/
def sessionRaws : AccountsCall → List String
  | .register _ draws => [draws.session.raw]
  | .login _ draws => [draws.raw]
  | .refresh _ _ draws => [draws.raw]
  | _ => []

/-- The raw refresh tokens hashed. -/
def hashedRaws : AccountsCall → List String
  | .register _ draws => [draws.session.raw]
  | .login _ draws => [draws.raw]
  | .refresh rawToken _ draws => [draws.raw, rawToken]
  | .logout rawToken => [rawToken]
  | _ => []

def userIds : AccountsCall → List String
  | .register _ draws => [draws.userId]
  | _ => []

/-- What a call draws for a mailed link. -/
def mailDraws : AccountsCall → List EmailDraws
  | .register _ draws => [draws.mail]
  | .requestEmailVerification _ draws => [draws]
  | .requestPasswordReset _ draws => [draws]
  | _ => []

def linkIds (call : AccountsCall) : List String :=
  (mailDraws call).map EmailDraws.id

def linkRaws (call : AccountsCall) : List String :=
  (mailDraws call).map EmailDraws.raw

/-- The raw link tokens hashed. -/
def hashedLinks (call : AccountsCall) : List String :=
  linkRaws call ++
    match call with
    | .confirmEmailVerification rawToken _ => [rawToken]
    | .confirmPasswordReset rawToken _ _ => [rawToken]
    | _ => []

/-- The passwords that are hashed or checked. -/
def passwords : AccountsCall → List String
  | .register input _ => [input.password]
  | .login input _ => [input.password]
  | .confirmPasswordReset _ newPassword _ => [newPassword]
  | _ => []

def salts : AccountsCall → List String
  | .register _ draws => [draws.salt]
  | .confirmPasswordReset _ _ salt => [salt]
  | _ => []

/-- What the calls of a history draw or use, in order. -/
def along (drawn : AccountsCall → List String)
    (history : List (AccountsCall × Time)) : List String :=
  history.flatMap fun call => drawn call.1

section Along

variable {drawn : AccountsCall → List String}
  {history : List (AccountsCall × Time)} {call : AccountsCall × Time}
  {value : String}

theorem along_concat :
    along drawn (history ++ [call]) = along drawn history ++ drawn call.1 := by
  simp [along]

theorem along_later (member : value ∈ along drawn history) :
    value ∈ along drawn (history ++ [call]) := by
  rw [along_concat]
  exact List.mem_append_left _ member

theorem along_last (member : value ∈ drawn call.1) :
    value ∈ along drawn (history ++ [call]) := by
  rw [along_concat]
  exact List.mem_append_right _ member

theorem along_sublist {shorter longer : List (AccountsCall × Time)}
    (sublist : shorter.Sublist longer) :
    (along drawn shorter).Sublist (along drawn longer) :=
  sublist.flatMap _

/-- What the last call draws of distinct values, no earlier call has drawn. -/
theorem not_mem_along (distinct : (along drawn (history ++ [call])).Nodup)
    (last : value ∈ drawn call.1) : value ∉ along drawn history := by
  intro earlier
  rw [along_concat] at distinct
  exact (List.nodup_append.mp distinct).2.2 value earlier value last rfl

end Along

/--
The draws of a history identify and its hashes tell apart.  `names` are the raw
link tokens that are spoken about.
-/
structure Fresh (deps : AccountsDeps) (names : Set String)
    (history : List (AccountsCall × Time)) : Prop where
  sessionIds : (along sessionIds history).Nodup
  sessionRaws : (along sessionRaws history).Nodup
  userIds : (along userIds history).Nodup
  linkIds : (along linkIds history).Nodup
  linkRaws : (along linkRaws history).Nodup
  refreshHash : Set.InjOn deps.hashRefresh
    { raw | raw ∈ along hashedRaws history }
  named : ∀ raw ∈ along hashedLinks history, raw ∈ names
  linkHash : Set.InjOn deps.sha256Sync names
  verify : ∀ password ∈ along passwords history, ∀ salt ∈ along salts history,
    ∀ plain ∈ along passwords history,
      deps.argon2verify plain (deps.argon2id password salt) =
        decide (password = plain)

/-- A part of the calls of a history draws and uses a part of its values. -/
theorem Fresh.sublist {deps : AccountsDeps} {names : Set String}
    {shorter longer : List (AccountsCall × Time)}
    (fresh : Fresh deps names longer) (sublist : shorter.Sublist longer) :
    Fresh deps names shorter where
  sessionIds := fresh.sessionIds.sublist (along_sublist sublist)
  sessionRaws := fresh.sessionRaws.sublist (along_sublist sublist)
  userIds := fresh.userIds.sublist (along_sublist sublist)
  linkIds := fresh.linkIds.sublist (along_sublist sublist)
  linkRaws := fresh.linkRaws.sublist (along_sublist sublist)
  refreshHash := fresh.refreshHash.mono fun _ member =>
    (along_sublist sublist).subset member
  named := fun raw member =>
    fresh.named raw ((along_sublist sublist).subset member)
  linkHash := fresh.linkHash
  verify := fun password passwordUsed salt saltUsed plain plainUsed =>
    fresh.verify password ((along_sublist sublist).subset passwordUsed) salt
      ((along_sublist sublist).subset saltUsed) plain
      ((along_sublist sublist).subset plainUsed)

theorem Fresh.initial {deps : AccountsDeps} {names : Set String}
    {history : List (AccountsCall × Time)} {call : AccountsCall × Time}
    (fresh : Fresh deps names (history ++ [call])) :
    Fresh deps names history :=
  fresh.sublist (List.sublist_append_left _ _)

/-! ## The representation -/

/-- The row of a user shows an account, its password under a hash. -/
structure Shows (deps : AccountsDeps) (history : List (AccountsCall × Time))
    (user : User) (account : Account) : Prop where
  email : user.email = account.email
  displayName : user.displayName = account.displayName
  avatarUrl : user.avatarUrl = account.avatarUrl
  verifiedAt : user.emailVerifiedAt = account.verifiedAt
  passwordUsed : account.password ∈ along passwords history
  passwordHash : ∃ salt ∈ along salts history,
    user.passwordHash = deps.argon2id account.password salt

/-- The row of an email token allows what a link is good for. -/
structure Allows (token : EmailToken) (link : Link) : Prop where
  kind : token.kind = link.kind
  userId : token.userId = link.userId
  expiresAt : token.expiresAt = link.expiresAt
  used : token.usedAt = none ↔ link.used = false

/-- The users tabulate the accounts. -/
structure Enrols (deps : AccountsDeps) (history : List (AccountsCall × Time))
    (users : List User) (accounts : String → Option Account)
    (registered : String → Option String) : Prop where
  byId : Tabulates (fun user => user.id) id Set.univ (Shows deps history)
    users accounts
  byEmail : Tabulates (fun user => user.email) id Set.univ
    (fun user (id : String) => user.id = id) users registered
  drawn : ∀ user ∈ users, user.id ∈ along userIds history

/-- The email tokens tabulate the links. -/
structure Grants (deps : AccountsDeps) (names : Set String)
    (history : List (AccountsCall × Time)) (users : List User)
    (tokens : List EmailToken) (links : String → Option Link) : Prop where
  tabulated : Tabulates (fun token => token.tokenHash) deps.sha256Sync names
    Allows tokens links
  owner : ∀ token ∈ tokens, ∃ user ∈ users, user.id = token.userId
  drawnId : ∀ token ∈ tokens, token.id ∈ along linkIds history
  drawnRaw : ∀ raw, links raw ≠ none → raw ∈ along linkRaws history

/-- The refresh tokens represent the ledger, after some calls on sessions. -/
structure Keeps (deps : AccountsDeps) (history : List (AccountsCall × Time))
    (tables : AuthState) (ledger : Ledger)
    (calls : List (SessionCall × Time)) : Prop where
  represents : Represents deps.toSessionDeps tables.users calls tables ledger
  owners : ∀ call ∈ calls, ∀ user ∈ call.1.opensFor,
    ∃ stored ∈ tables.users, stored.id = user
  ids : (SessionRefinement.drawnIds calls).Sublist (along sessionIds history)
  raws : (SessionRefinement.drawnRaws calls).Sublist
    (along sessionRaws history)
  used : SessionRefinement.usedRaws calls ⊆ along hashedRaws history

/-- The state represents the book after a history of calls. -/
structure Books (deps : AccountsDeps) (names : Set String)
    (history : List (AccountsCall × Time)) (state : AccountsState)
    (book : Book) : Prop where
  users : Enrols deps history state.tables.users book.accounts book.registered
  links : Grants deps names history state.tables.users
    state.tables.emailTokens book.links
  sessions : ∃ calls, Keeps deps history state.tables book.sessions calls
  outbox : state.outbox = book.outbox

section Parts

variable {deps : AccountsDeps} {names : Set String}
  {history : List (AccountsCall × Time)} {call : AccountsCall × Time}
  {users : List User} {tokens : List EmailToken} {tables : AuthState}
  {accounts : String → Option Account} {registered : String → Option String}
  {links : String → Option Link} {ledger : Ledger}
  {calls : List (SessionCall × Time)}

/-! ### The users -/

theorem Shows.later {user : User} {account : Account}
    (shows_ : Shows deps history user account) :
    Shows deps (history ++ [call]) user account :=
  { shows_ with
    passwordUsed := along_later shows_.passwordUsed
    passwordHash := by
      rcases shows_.passwordHash with ⟨salt, used, hash⟩
      exact ⟨salt, along_later used, hash⟩ }

theorem Shows.toPublicUser_eq {user : User} {account : Account}
    (shows_ : Shows deps history user account) :
    toPublicUser user = account.profile user.id := by
  simp only [toPublicUser, Account.profile, shows_.email, shows_.displayName,
    shows_.avatarUrl, shows_.verifiedAt]

theorem Enrols.later (enrols : Enrols deps history users accounts registered) :
    Enrols deps (history ++ [call]) users accounts registered where
  byId := enrols.byId.imp fun _ _ => Shows.later
  byEmail := enrols.byEmail
  drawn := fun user stored => along_later (enrols.drawn user stored)

theorem Enrols.id_none (enrols : Enrols deps history users accounts registered)
    {id : String} (unknown : accounts id = none) :
    first (fun user => user.id = id) users = none :=
  enrols.byId.absent (Set.mem_univ id) unknown

theorem Enrols.id_some (enrols : Enrols deps history users accounts registered)
    {id : String} {account : Account} (known : accounts id = some account) :
    ∃ user ∈ users, user.id = id ∧
      first (fun user => user.id = id) users = some user ∧
        Shows deps history user account :=
  enrols.byId.found (Set.mem_univ id) known

theorem Enrols.email_none
    (enrols : Enrols deps history users accounts registered)
    {email : String} (unknown : registered email = none) :
    first (fun user => user.email = email) users = none :=
  enrols.byEmail.absent (Set.mem_univ email) unknown

/-- The user found by an email is the account registered under it. -/
theorem Enrols.email_some
    (enrols : Enrols deps history users accounts registered)
    {email id : String} (known : registered email = some id) :
    ∃ user ∈ users, ∃ account, user.id = id ∧ user.email = email ∧
      first (fun user => user.email = email) users = some user ∧
        accounts id = some account ∧ Shows deps history user account := by
  obtain ⟨user, stored, sameEmail, selected, sameId⟩ :=
    enrols.byEmail.found (Set.mem_univ email) known
  obtain ⟨account, knownAccount, shows_⟩ :=
    enrols.byId.value_of_row (Set.mem_univ id) stored sameId
  exact ⟨user, stored, account, sameId, sameEmail, selected, knownAccount,
    shows_⟩

/-- Creating a user of a new id and a new email enters an account. -/
theorem Enrols.enter (enrols : Enrols deps history users accounts registered)
    {user : User} {account : Account}
    (newId : ∀ other ∈ users, other.id ≠ user.id)
    (newEmail : registered account.email = none)
    (drawn : user.id ∈ userIds call.1)
    (shows_ : Shows deps (history ++ [call]) user account) :
    Enrols deps (history ++ [call]) (users ++ [user])
      (Function.update accounts user.id (some account))
      (Function.update registered account.email (some user.id)) where
  byId := by
    refine enrols.later.byId.insert Function.injective_id.injOn
      (Set.mem_univ user.id) ?_ rfl shows_
    cases known : accounts user.id with
    | none => rfl
    | some other =>
        obtain ⟨stored, member, sameId, -⟩ := enrols.id_some known
        exact absurd sameId (newId stored member)
  byEmail :=
    enrols.byEmail.insert Function.injective_id.injOn
      (Set.mem_univ account.email) newEmail shows_.email rfl
  drawn := by
    intro other member
    rcases List.mem_append.mp member with older | newest
    · exact along_later (enrols.drawn other older)
    · rw [List.mem_singleton.mp newest]
      exact along_last drawn

/-- Updating a user's row revises the account. -/
theorem Enrols.revise (enrols : Enrols deps history users accounts registered)
    {id : String} {account revised : Account} {change : User → User}
    (known : accounts id = some account)
    (keepsId : ∀ user, (change user).id = user.id)
    (keepsEmail : ∀ user, (change user).email = user.email)
    (shows_ : ∀ user, Shows deps history user account →
      Shows deps history (change user) revised) :
    Enrols deps history
      (updateWhere (fun user => user.id = id) change users)
      (Function.update accounts id (some revised)) registered where
  byId := by
    refine enrols.byId.updateWhere_name Function.injective_id.injOn
      keepsId (Set.mem_univ id) known (fun _ _ sameId => sameId) ?_
    intro user stored sameId _
    obtain ⟨_, sameAccount, shown⟩ :=
      enrols.byId.value_of_row (Set.mem_univ id) stored sameId
    obtain rfl : account = _ := Option.some.inj (known.symm.trans sameAccount)
    exact ⟨sameId, shows_ user shown⟩
  byEmail :=
    enrols.byEmail.updateWhere_unseen keepsEmail
      fun user _ _ _ sameId => (keepsId user).trans sameId
  drawn := by
    apply forall_mem_updateWhere
    · exact enrols.drawn
    · intro user stored _
      rw [keepsId]
      exact enrols.drawn user stored

/-! ### The email tokens -/

theorem Fresh.mail_named (fresh : Fresh deps names (history ++ [call]))
    {draws : EmailDraws} (drawn : draws ∈ mailDraws call.1) :
    draws.raw ∈ names :=
  fresh.named _ (along_last (List.mem_append_left _
    (List.mem_map.mpr ⟨draws, drawn, rfl⟩)))

/-- The raw token of a link that is drawn has no link yet. -/
theorem Grants.newRaw
    (grants : Grants deps names history users tokens links)
    (fresh : Fresh deps names (history ++ [call]))
    {draws : EmailDraws} (drawn : draws ∈ mailDraws call.1) :
    links draws.raw = none := by
  by_contra known
  exact not_mem_along fresh.linkRaws
    (List.mem_map.mpr ⟨draws, drawn, rfl⟩) (grants.drawnRaw draws.raw known)

theorem Grants.later
    (grants : Grants deps names history users tokens links) :
    Grants deps names (history ++ [call]) users tokens links :=
  { grants with
    drawnId := fun token stored => along_later (grants.drawnId token stored)
    drawnRaw := fun raw known => along_later (grants.drawnRaw raw known) }

/-- Users may come, and keep their ids when they are updated. -/
theorem Grants.amongUsers {others : List User}
    (grants : Grants deps names history users tokens links)
    (stay : ∀ user ∈ users, ∃ other ∈ others, other.id = user.id) :
    Grants deps names history others tokens links :=
  { grants with
    owner := by
      intro token stored
      obtain ⟨user, member, sameId⟩ := grants.owner token stored
      obtain ⟨other, otherMember, otherId⟩ := stay user member
      exact ⟨other, otherMember, otherId.trans sameId⟩ }

/-- A token that is drawn for a link breaks no constraint. -/
theorem Grants.accepted
    (grants : Grants deps names history users tokens links)
    (fresh : Fresh deps names (history ++ [call]))
    (record : NewEmailToken) {draws : EmailDraws}
    (drawn : draws ∈ mailDraws call.1) (ofId : record.id = draws.id)
    (ofRaw : record.tokenHash = deps.sha256Sync draws.raw)
    (owner : ∃ user ∈ users, user.id = record.userId) :
    PgEmailTokenRepository.insertViolation users tokens record = none := by
  have newId : ¬ ∃ token ∈ tokens, token.id = record.id := by
    rintro ⟨token, stored, sameId⟩
    refine not_mem_along fresh.linkIds
      (List.mem_map.mpr ⟨draws, drawn, ofId.symm⟩) ?_
    rw [← sameId]
    exact grants.drawnId token stored
  have newHash : ¬ ∃ token ∈ tokens, token.tokenHash = record.tokenHash := by
    rintro ⟨token, stored, sameHash⟩
    exact grants.tabulated.key_ne (fresh.mail_named drawn)
      (grants.newRaw fresh drawn) token stored (sameHash.trans ofRaw)
  rw [PgEmailTokenRepository.insertViolation, if_neg newId, if_neg newHash,
    if_neg (not_not_intro owner)]

/-- Inserting a token that is drawn for a link grants the link. -/
theorem Grants.insert
    (grants : Grants deps names history users tokens links)
    (fresh : Fresh deps names (history ++ [call]))
    {record : NewEmailToken} {draws : EmailDraws}
    (drawn : draws ∈ mailDraws call.1) (ofId : record.id = draws.id)
    (ofRaw : record.tokenHash = deps.sha256Sync draws.raw)
    (owner : ∃ user ∈ users, user.id = record.userId) :
    Grants deps names (history ++ [call]) users (tokens ++ [record.row])
      (Function.update links draws.raw
        (some ⟨record.kind, record.userId, record.expiresAt, false⟩)) where
  tabulated :=
    grants.tabulated.insert fresh.linkHash (fresh.mail_named drawn)
      (grants.newRaw fresh drawn) ofRaw
      ⟨rfl, rfl, rfl, by simp [NewEmailToken.row]⟩
  owner := by
    intro token member
    rcases List.mem_append.mp member with older | newest
    · exact grants.owner token older
    · rw [List.mem_singleton.mp newest]
      exact owner
  drawnId := by
    intro token member
    rcases List.mem_append.mp member with older | newest
    · exact along_later (grants.drawnId token older)
    · rw [List.mem_singleton.mp newest]
      exact along_last (List.mem_map.mpr ⟨draws, drawn, ofId.symm⟩)
  drawnRaw := by
    intro raw known
    by_cases new : raw = draws.raw
    · exact along_last (List.mem_map.mpr ⟨draws, drawn, new.symm⟩)
    · rw [Function.update_of_ne new] at known
      exact along_later (grants.drawnRaw raw known)

/-- The token a redemption selects is the link it redeems, if it redeems one. -/
theorem Grants.select
    (grants : Grants deps names history users tokens links)
    {raw : String} (named : raw ∈ names) (kind : EmailTokenKind)
    (now : Time) :
    (∃ token link, first (fun token => token.tokenHash = deps.sha256Sync raw ∧
          token.kind = kind ∧ token.usedAt = none ∧ now < token.expiresAt)
        tokens = some token ∧ links raw = some link ∧
          link.Redeemable kind now ∧ token.userId = link.userId) ∨
      first (fun token => token.tokenHash = deps.sha256Sync raw ∧
          token.kind = kind ∧ token.usedAt = none ∧ now < token.expiresAt)
        tokens = none ∧
      ∀ link, links raw = some link → ¬ link.Redeemable kind now := by
  rw [grants.tabulated.unique.first_and]
  cases known : links raw with
  | none =>
      right
      rw [grants.tabulated.absent named known]
      exact ⟨rfl, by simp⟩
  | some link =>
      obtain ⟨token, -, -, selected, allows⟩ :=
        grants.tabulated.found named known
      have usable : (token.kind = kind ∧ token.usedAt = none ∧
          now < token.expiresAt) ↔ link.Redeemable kind now := by
        rw [Link.Redeemable, allows.kind, allows.used, allows.expiresAt]
      rw [selected]
      by_cases redeemable : link.Redeemable kind now
      · left
        refine ⟨token, link, ?_, rfl, redeemable, allows.userId⟩
        rw [Option.filter_some, if_pos (by simpa using usable.mpr redeemable)]
      · right
        have unusable : ¬ decide (token.kind = kind ∧ token.usedAt = none ∧
            now < token.expiresAt) = true := by
          rw [decide_eq_true_iff, usable]
          exact redeemable
        refine ⟨by rw [Option.filter_some, if_neg unusable], ?_⟩
        intro other same
        rwa [← Option.some.inj same]

/-- Consuming a token uses its link up. -/
theorem Grants.consume
    (grants : Grants deps names history users tokens links)
    (fresh : Fresh deps names (history ++ [call]))
    {raw : String} {link : Link} {kind : EmailTokenKind} {now : Time}
    (named : raw ∈ names) (known : links raw = some link)
    (redeemable : link.Redeemable kind now) :
    Grants deps names (history ++ [call]) users
      (updateWhere (fun token => token.tokenHash = deps.sha256Sync raw ∧
          token.kind = kind ∧ token.usedAt = none ∧ now < token.expiresAt)
        (fun token => { token with usedAt := some now }) tokens)
      (Function.update links raw (some { link with used := true })) where
  tabulated := by
    refine grants.tabulated.updateWhere_name fresh.linkHash (fun _ => rfl) named
      known (fun _ _ usable => usable.1) ?_
    intro token stored hash allows
    refine ⟨⟨hash, ?_, ?_, ?_⟩,
      ⟨allows.kind, allows.userId, allows.expiresAt, by simp⟩⟩
    · exact allows.kind.trans redeemable.1
    · exact allows.used.mpr redeemable.2.1
    · rw [allows.expiresAt]
      exact redeemable.2.2
  owner := forall_mem_updateWhere grants.owner
    fun token stored _ => grants.owner token stored
  drawnId := forall_mem_updateWhere
    (fun token stored => along_later (grants.drawnId token stored))
    fun token stored _ => along_later (grants.drawnId token stored)
  drawnRaw := by
    intro other otherKnown
    by_cases same : other = raw
    · rw [same]
      exact along_later (grants.drawnRaw raw (by simp [known]))
    · rw [Function.update_of_ne same] at otherKnown
      exact along_later (grants.drawnRaw other otherKnown)

/-! ### The refresh tokens -/

theorem Keeps.later (keeps : Keeps deps history tables ledger calls) :
    Keeps deps (history ++ [call]) tables ledger calls :=
  { keeps with
    ids := keeps.ids.trans (along_sublist (List.sublist_append_left _ _))
    raws := keeps.raws.trans (along_sublist (List.sublist_append_left _ _))
    used := fun _ member => along_later (keeps.used member) }

/-- The ledger does not speak about the tables of users and email tokens. -/
theorem Keeps.amongUsers {others : AuthState}
    (keeps : Keeps deps history tables ledger calls)
    (sameTokens : others.refreshTokens = tables.refreshTokens)
    (stay : ∀ user ∈ tables.users, ∃ other ∈ others.users,
      other.id = user.id) :
    Keeps deps history others ledger calls where
  represents :=
    { sameUsers := rfl
      uniqueId := sameTokens ▸ keeps.represents.uniqueId
      uniqueHash := sameTokens ▸ keeps.represents.uniqueHash
      owner := by
        rw [sameTokens]
        intro row stored
        obtain ⟨user, member, sameId⟩ := keeps.represents.owner row stored
        obtain ⟨other, otherMember, otherId⟩ := stay user member
        exact ⟨other, otherMember, otherId.trans sameId⟩
      stores := sameTokens ▸ keeps.represents.stores
      stored := sameTokens ▸ keeps.represents.stored
      currentIssued := keeps.represents.currentIssued
      drawnRow := sameTokens ▸ keeps.represents.drawnRow
      drawnFamily := keeps.represents.drawnFamily
      drawnRaw := keeps.represents.drawnRaw }
  owners := by
    intro call called id opens
    obtain ⟨user, member, sameId⟩ := keeps.owners call called id opens
    obtain ⟨other, otherMember, otherId⟩ := stay user member
    exact ⟨other, otherMember, otherId.trans sameId⟩
  ids := keeps.ids
  raws := keeps.raws
  used := keeps.used

/-- Revoking the tokens of a user kills the sessions of the user. -/
theorem Keeps.userRevoked (keeps : Keeps deps history tables ledger calls)
    (user : String) (now : Time) :
    Keeps deps history
      { tables with
        refreshTokens :=
          updateWhere (fun row => row.userId = user ∧ row.revokedAt = none)
            (PgRefreshTokenRepository.revoke now) tables.refreshTokens }
      (ledger.killUser user) calls :=
  { keeps with represents := keeps.represents.userRevoked user now }

/-- The operations of the calls on sessions. -/
def OnSessions : AuthOp → Prop
  | .refreshTokenRepo _ => True
  | .signAccess _ => True
  | _ => False

theorem rotateToken_issues (deps : SessionDeps) (draws : SessionDraws)
    (token : RefreshToken) (sessionMeta : Option SessionMeta) :
    (RefreshSession.rotateToken deps draws token sessionMeta).Issues
      OnSessions :=
  .perform_bind trivial fun _ => .perform_bind trivial fun _ =>
    .perform_bind trivial fun _ => trivial

theorem refuse_issues (token : RefreshToken) :
    (RefreshSession.refuse token).Issues OnSessions := by
  unfold RefreshSession.refuse
  cases token.replacedById with
  | none => trivial
  | some replacedById => exact .perform_bind trivial fun _ => trivial

theorem replayed_issues (deps : SessionDeps) (draws : SessionDraws)
    (token : RefreshToken) (revokedAt : Time)
    (sessionMeta : Option SessionMeta) :
    (RefreshSession.replayed deps draws token revokedAt sessionMeta).Issues
      OnSessions := by
  unfold RefreshSession.replayed
  cases token.replacedById with
  | none => exact refuse_issues token
  | some replacedById =>
      dsimp only
      split_ifs with grace
      · refine .perform_bind trivial fun found => ?_
        cases found with
        | none => exact refuse_issues token
        | some replacement =>
            dsimp only
            split_ifs
            · exact rotateToken_issues deps draws replacement sessionMeta
            · exact refuse_issues token
      · exact refuse_issues token

theorem sessionCall_issues (deps : SessionDeps) (call : SessionCall) :
    (call.program deps).Issues OnSessions := by
  cases call with
  | createSession draws userId sessionMeta =>
      exact .map (.perform_bind trivial fun _ =>
        .perform_bind trivial fun _ => trivial)
  | refresh draws rawToken sessionMeta =>
      refine .map (.perform_bind trivial fun found => ?_)
      cases found with
      | none => trivial
      | some token =>
          cases revoked : token.revokedAt with
          | some revokedAt =>
              simp only [RefreshSession.lookedUp, revoked]
              exact replayed_issues deps draws token revokedAt sessionMeta
          | none =>
              simp only [RefreshSession.lookedUp, revoked]
              split_ifs
              · trivial
              · exact rotateToken_issues deps draws token sessionMeta
  | revoke rawToken =>
      refine .map (.perform_bind trivial fun found => ?_)
      cases found with
      | none => trivial
      | some token =>
          cases revoked : token.revokedAt with
          | some revokedAt =>
              simp only [RevokeSession.lookedUp, revoked]
              trivial
          | none =>
              simp only [RevokeSession.lookedUp, revoked]
              exact ⟨trivial, fun _ => trivial⟩
  | revokeAllForUser userId => exact .map ⟨trivial, fun _ => trivial⟩

/-- The tables differ in the refresh tokens at most. -/
def OtherTablesKept (before after : AuthState) : Prop :=
  after.users = before.users ∧ after.emailTokens = before.emailTokens

theorem sessionCall_frame (deps : SessionDeps) (call : SessionCall)
    (now : Time) (tables : AuthState) :
    OtherTablesKept tables
      ((sessionMachine deps).step tables (call, now)).2 := by
  refine (sessionCall_issues deps call).run_preserves ?_ ⟨rfl, rfl⟩
  intro op state answer after onSessions kept answered
  cases op with
  | refreshTokenRepo op =>
      rw [authAdapter] at answered
      cases handled : PgRefreshTokenRepository.handle state.users op now
          state.refreshTokens with
      | error error =>
          rw [handled] at answered
          cases answered
      | ok handledTo =>
          rw [handled] at answered
          cases answered
          exact kept
  | signAccess claims =>
      cases answered
      exact kept
  | emailTokenRepo op => exact absurd onSessions id
  | userRepo op => exact absurd onSessions id
  | hashPassword plain salt => exact absurd onSessions id

/-- What the history keeps of sessions is fresh for one more call on them. -/
theorem Keeps.fresh_concat
    (keeps : Keeps deps history tables ledger calls)
    (sessionCall : SessionCall) (now : Time)
    (fresh : Fresh deps names (history ++ [call]))
    (ids : sessionCall.drawnIds = sessionIds call.1)
    (raws : sessionCall.drawnRaws = sessionRaws call.1)
    (used : sessionCall.usedRaws = hashedRaws call.1)
    (owner : ∀ user ∈ sessionCall.opensFor,
      ∃ stored ∈ tables.users, stored.id = user) :
    SessionRefinement.Fresh deps.toSessionDeps tables.users
      (calls ++ [(sessionCall, now)]) where
  ids := by
    rw [SessionRefinement.drawnIds_concat, ids]
    refine (along_concat ▸ fresh.sessionIds).sublist ?_
    exact keeps.ids.append_right _
  raws := by
    rw [SessionRefinement.drawnRaws_concat, raws]
    refine (along_concat ▸ fresh.sessionRaws).sublist ?_
    exact keeps.raws.append_right _
  hash := by
    refine fresh.refreshHash.mono fun raw member => ?_
    rw [Set.mem_ofPred_eq, SessionRefinement.usedRaws_concat, used] at member
    rw [Set.mem_ofPred_eq, along_concat]
    rcases List.mem_append.mp member with older | newest
    · exact List.mem_append_left _ (keeps.used older)
    · exact List.mem_append_right _ newest
  owners := by
    intro other member
    rcases List.mem_append.mp member with older | newest
    · exact keeps.owners other older
    · rw [List.mem_singleton.mp newest]
      exact owner

/-- A call on sessions is answered as the ledger answers it. -/
theorem Keeps.step (noGrace : deps.graceWindowSec = 0)
    (keeps : Keeps deps history tables ledger calls)
    (sessionCall : SessionCall) (now : Time)
    (fresh : Fresh deps names (history ++ [call]))
    (ids : sessionCall.drawnIds = sessionIds call.1)
    (raws : sessionCall.drawnRaws = sessionRaws call.1)
    (used : sessionCall.usedRaws = hashedRaws call.1)
    (owner : ∀ user ∈ sessionCall.opensFor,
      ∃ stored ∈ tables.users, stored.id = user) :
    let ran := (sessionMachine deps.toSessionDeps).step tables
      (sessionCall, now)
    let answered := ledger.step deps.toSessionDeps (sessionCall, now)
    ran.1 = answered.1 ∧ OtherTablesKept tables ran.2 ∧
      Keeps deps (history ++ [call]) ran.2 answered.2
        (calls ++ [(sessionCall, now)]) := by
  intro ran answered
  have freshCalls :=
    keeps.fresh_concat sessionCall now fresh ids raws used owner
  have agree := keeps.represents.step noGrace (sessionCall, now) freshCalls
  have frame := sessionCall_frame deps.toSessionDeps sessionCall now tables
  refine ⟨agree.answer, frame, ?_⟩
  exact
    { represents := by
        rw [frame.1]
        exact agree.represents
      owners := by
        rw [frame.1]
        exact freshCalls.owners
      ids := by
        rw [SessionRefinement.drawnIds_concat, along_concat, ids]
        exact keeps.ids.append_right _
      raws := by
        rw [SessionRefinement.drawnRaws_concat, along_concat, raws]
        exact keeps.raws.append_right _
      used := by
        intro raw member
        rw [SessionRefinement.usedRaws_concat, used] at member
        rcases List.mem_append.mp member with older | newest
        · exact along_later (keeps.used older)
        · exact along_last newest }

/-- A session that is opened for a stored user is the one the ledger opens. -/
theorem Keeps.signIn (noGrace : deps.graceWindowSec = 0)
    (keeps : Keeps deps history tables ledger calls)
    {draws : SessionDraws} {user : String}
    (sessionMeta : Option SessionMeta) (now : Time)
    (fresh : Fresh deps names (history ++ [call]))
    (ids : sessionIds call.1 = [draws.familyId, draws.id])
    (raws : sessionRaws call.1 = [draws.raw])
    (used : hashedRaws call.1 = [draws.raw])
    (owner : ∃ stored ∈ tables.users, stored.id = user) :
    ∃ after,
      (createSession deps.toSessionDeps draws user sessionMeta).run
          (authAdapter deps.toAuthServices) now tables =
        (.ok (Ledger.session deps.toSessionDeps draws user now), after) ∧
      OtherTablesKept tables after ∧
      ∃ calls, Keeps deps (history ++ [call]) after
        (ledger.step deps.toSessionDeps
          (.createSession draws user none, now)).2 calls := by
  obtain ⟨answer, frame, kept⟩ :=
    keeps.step noGrace (.createSession draws user sessionMeta) now fresh
      ids.symm raws.symm used.symm fun other opens =>
        Option.some.inj opens ▸ owner
  have stepped :
      (sessionMachine deps.toSessionDeps).step tables
          (.createSession draws user sessionMeta, now) =
        (((createSession deps.toSessionDeps draws user sessionMeta).run
            (authAdapter deps.toAuthServices) now tables).1.map some,
          ((createSession deps.toSessionDeps draws user sessionMeta).run
            (authAdapter deps.toAuthServices) now tables).2) :=
    Program.run_map _ _ _ _ _
  rw [stepped] at answer frame kept
  rcases ran : (createSession deps.toSessionDeps draws user sessionMeta).run
    (authAdapter deps.toAuthServices) now tables with ⟨outcome, after⟩
  rw [ran] at answer frame kept
  cases outcome with
  | error error => cases answer
  | ok session =>
      have opened := Option.some.inj (Except.ok.inj answer)
      exact ⟨after, by rw [opened], frame, _, kept⟩

end Parts

end ChatBackend.Auth.AccountRefinement
