import ChatBackend.Auth.AccountTables

/-!
# The account tables refine the book of accounts

With the grace window closed, the calls of `Accounts` on the tables are answered
as the book answers them, and send the mails it sends.  There is a lemma for
every call; the run is the simulation they make up.
-/

namespace ChatBackend.Auth.AccountRefinement

open Effects
open Relational
open ChatBackend.Auth.TokenStore
open ChatBackend.Auth.Sessions
open ChatBackend.Auth.SessionLedger
open ChatBackend.Auth.EmailTokens
open ChatBackend.Auth.Accounts
open ChatBackend.Auth.AccountBook
open ChatBackend.Auth.SessionRefinement (sessionMachine)

/-! ## The programs on the state -/

section Runs

variable {deps : AccountsDeps} {now : Time} {state : AccountsState}
  {Result : Type}

theorem run_account (program : AccountProgram Result) :
    (account program).run (accountsAdapter deps) now state =
      program.run (mailingAdapter deps.toAuthServices) now state :=
  Program.run_embed (accountComponent deps) now program state

theorem run_auth (program : AuthProgram Result) :
    (auth program).run (mailingAdapter deps.toAuthServices) now state =
      ((program.run (authAdapter deps.toAuthServices) now state.tables).1,
        { state with
          tables :=
            (program.run (authAdapter deps.toAuthServices) now
              state.tables).2 }) :=
  Program.run_embed (authComponent deps.toAuthServices) now program state

/-- An operation on the tables, with the mail it sends. -/
theorem mailingAdapter_ok {op : AccountOp} {answer : op.Answer}
    {after : AuthState}
    (answered : accountAdapter deps.toAuthServices op now state.tables =
      .ok (answer, after)) :
    mailingAdapter deps.toAuthServices op now state =
      .ok (answer,
        { tables := after, outbox := state.outbox ++ mailOf op }) := by
  rw [mailingAdapter, answered]
  rfl

theorem mailingAdapter_auth {op : AuthOp} {answer : op.Answer}
    {after : AuthState}
    (answered : authAdapter deps.toAuthServices op now state.tables =
      .ok (answer, after)) :
    mailingAdapter deps.toAuthServices (.auth op) now state =
      .ok (answer, { state with tables := after }) := by
  have onTables :
      accountAdapter deps.toAuthServices (.auth op) now state.tables =
        .ok (answer, after) := answered
  rw [mailingAdapter_ok onTables]
  simp only [mailOf, List.append_nil]

theorem mailingAdapter_error {op : AuthOp} {error : Failure}
    (fails : authAdapter deps.toAuthServices op now state.tables =
      .error error) :
    mailingAdapter deps.toAuthServices (.auth op) now state = .error error := by
  simp only [mailingAdapter, accountAdapter, fails]
  rfl

theorem mailingAdapter_findUserByEmail {email : String}
    (stores : Storable [some email]) :
    mailingAdapter deps.toAuthServices (.findUserByEmail email) now state =
      .ok (first (fun user => user.email = email) state.tables.users,
        state) := by
  rw [mailingAdapter_ok (accountAdapter_findUserByEmail_eq_ok_iff.mpr
    ⟨storable_singleton.mp stores, rfl, rfl⟩)]
  simp only [mailOf, List.append_nil]

theorem mailingAdapter_findUserByEmail_ok {email : String}
    {answer : Option User} {after : AccountsState}
    (answered :
      mailingAdapter deps.toAuthServices (.findUserByEmail email) now state =
        .ok (answer, after)) :
    first (fun user => user.email = email) state.tables.users = answer ∧
      state = after := by
  obtain ⟨⟨looked, tables⟩, read, left⟩ := map_eq_ok_iff.mp answered
  obtain ⟨-, rfl, rfl⟩ := accountAdapter_findUserByEmail_eq_ok_iff.mp read
  cases left
  exact ⟨rfl, by simp only [mailOf, List.append_nil]⟩

/-- A text that cannot be stored cannot be looked up either. -/
theorem mailingAdapter_findUserByEmail_refused {email : String}
    (refused : ¬ Storable [some email]) :
    mailingAdapter deps.toAuthServices (.findUserByEmail email) now state =
      .error (.databaseError .characterNotInRepertoire) := by
  simp only [mailingAdapter, accountAdapter, requireStorable_refused refused]
  rfl

theorem mailingAdapter_findUserById (id : String) :
    mailingAdapter deps.toAuthServices (.findUserById id) now state =
      .ok (first (fun user => user.id = id) state.tables.users, state) := by
  rw [mailingAdapter_ok rfl]
  simp only [mailOf, List.append_nil]

/-- A token that breaks no constraint is inserted and its link is sent. -/
theorem run_insert_send {record : NewEmailToken} {send : AccountOp}
    {answer : send.Answer}
    (accepted :
      PgEmailTokenRepository.insertViolation state.tables.users
        state.tables.emailTokens record = none)
    (sends : ∀ tables,
      accountAdapter deps.toAuthServices send now tables =
        .ok (answer, tables)) :
    (do
        AccountOp.await (.insertEmailToken record)
        AccountOp.await send : AccountProgram send.Answer).run
        (mailingAdapter deps.toAuthServices) now state =
      (.ok answer,
        { tables := { state.tables with
            emailTokens := state.tables.emailTokens ++ [record.row] }
          outbox := state.outbox ++ mailOf send }) := by
  have inserted :
      accountAdapter deps.toAuthServices (.insertEmailToken record) now
          state.tables =
        .ok ((), { state.tables with
          emailTokens := state.tables.emailTokens ++ [record.row] }) := by
    simp only [accountAdapter, accepted]
  rw [Program.perform_bind,
    Program.run_call_ok _ (mailingAdapter_ok inserted),
    Program.run_perform_ok (mailingAdapter_ok (sends _))]
  simp only [mailOf, List.append_nil]

/-- A call without a background is its program. -/
theorem step_eq_run {call : AccountsCall}
    (quiet : call.background deps = .done ()) :
    (accountsMachine deps).step state (call, now) =
      (call.program deps).run (accountsAdapter deps) now state := by
  simp only [accountsMachine, quiet]
  rcases (call.program deps).run (accountsAdapter deps) now state with
    ⟨outcome, after⟩
  cases outcome <;> rfl

end Runs

/-! ## One call -/

/-- The answers are the same and the states correspond afterwards. -/
structure Agree (deps : AccountsDeps) (names : Set String)
    (history : List (AccountsCall × Time))
    (low : Except Failure AccountsReply × AccountsState)
    (high : Except Failure AccountsReply × Book) : Prop where
  answer : low.1 = high.1
  books : Books deps names history low.2 high.2

section Steps

variable {deps : AccountsDeps} {names : Set String}
  {history : List (AccountsCall × Time)} {call : AccountsCall × Time}
  {state : AccountsState} {book : Book} {now : Time}

theorem Books.later (books : Books deps names history state book) :
    Books deps names (history ++ [call]) state book where
  users := books.users.later
  links := books.links.later
  sessions := by
    rcases books.sessions with ⟨calls, keeps⟩
    exact ⟨calls, keeps.later⟩
  outbox := books.outbox

/-- A call that only looks. -/
theorem Books.looked {answer : Except Failure AccountsReply}
    (books : Books deps names history state book) :
    Agree deps names (history ++ [call]) (answer, state) (answer, book) where
  answer := rfl
  books := books.later

/-- A call is refused by the tables if it is by the book. -/
theorem Books.refusing (books : Books deps names history state book)
    {texts : List (Option String)}
    {low : Except Failure AccountsReply × AccountsState}
    {high : Except Failure AccountsReply × Book}
    (stores : Storable texts → Agree deps names (history ++ [call]) low high)
    (refuses : ¬ Storable texts →
      low = (.error (.databaseError .characterNotInRepertoire), state)) :
    Agree deps names (history ++ [call]) low (book.refusing texts high) := by
  by_cases stored : Storable texts
  · rw [Book.refusing_of_storable stored]
    exact stores stored
  · rw [Book.refusing_of_not stored, refuses stored]
    exact books.looked

/-- Updating a user's row revises the account. -/
theorem Books.revise (books : Books deps names history state book)
    {id : String} {account : Account}
    (known : book.accounts id = some account)
    (change : User → User) (revised : Account)
    (keepsId : ∀ user, (change user).id = user.id)
    (keepsEmail : ∀ user, (change user).email = user.email)
    (shows_ : ∀ user, Shows deps history user account →
      Shows deps history (change user) revised) :
    Books deps names history
      { state with
        tables := { state.tables with
          users :=
            updateWhere (fun user => user.id = id) change
              state.tables.users } }
      (book.revise id revised) where
  users := books.users.revise known keepsId keepsEmail shows_
  links := by
    refine books.links.amongUsers fun user stored => ?_
    exact (exists_mem_updateWhere_iff keepsId).mpr ⟨user, stored, rfl⟩
  sessions := by
    rcases books.sessions with ⟨calls, keeps⟩
    refine ⟨calls, keeps.amongUsers rfl fun user stored => ?_⟩
    exact (exists_mem_updateWhere_iff keepsId).mpr ⟨user, stored, rfl⟩
  outbox := books.outbox

/-- Inserting an email token and mailing it grants a link. -/
theorem Books.grant (books : Books deps names history state book)
    (fresh : Fresh deps names (history ++ [call]))
    (record : NewEmailToken) (mail : Mail) {draws : EmailDraws}
    (drawn : draws ∈ mailDraws call.1) (ofId : record.id = draws.id)
    (ofRaw : record.tokenHash = deps.sha256Sync draws.raw)
    (owner : ∃ user ∈ state.tables.users, user.id = record.userId) :
    Books deps names (history ++ [call])
      { tables := { state.tables with
          emailTokens := state.tables.emailTokens ++ [record.row] }
        outbox := state.outbox ++ [mail] }
      (book.grant draws.raw
        ⟨record.kind, record.userId, record.expiresAt, false⟩ mail) where
  users := books.users.later
  links := books.links.insert fresh drawn ofId ofRaw owner
  sessions := by
    rcases books.sessions with ⟨calls, keeps⟩
    exact ⟨calls, keeps.later.amongUsers rfl fun user stored =>
      ⟨user, stored, rfl⟩⟩
  outbox := by rw [Book.grant, ← books.outbox]

/-- A call moves only the refresh tokens and the sessions. -/
theorem Books.moveSessions (books : Books deps names history state book)
    {after : AuthState} {ledger : Ledger}
    (frame : OtherTablesKept state.tables after)
    (kept : ∃ calls, Keeps deps (history ++ [call]) after ledger calls) :
    Books deps names (history ++ [call]) { state with tables := after }
      { book with sessions := ledger } where
  users := frame.1 ▸ books.users.later
  links := by
    rw [frame.1, frame.2]
    exact books.links.later
  sessions := kept
  outbox := books.outbox

/-! ### The calls on the sessions -/

/-- A use case that is a call on sessions is answered by the ledger. -/
theorem Books.session_agree {Result : Type} {program : AuthProgram Result}
    {pack : Result → Option Session} (noGrace : deps.graceWindowSec = 0)
    (books : Books deps names history state book) (sessionCall : SessionCall)
    (fresh : Fresh deps names (history ++ [call]))
    (ids : sessionCall.drawnIds = sessionIds call.1)
    (raws : sessionCall.drawnRaws = sessionRaws call.1)
    (used : sessionCall.usedRaws = hashedRaws call.1)
    (opens : sessionCall.opensFor = none)
    (same : sessionCall.program deps.toSessionDeps = pack <$> program) :
    Agree deps names (history ++ [call])
      (((Book.sessionReply ∘ pack) <$> account (auth program)).run
        (accountsAdapter deps) now state)
      ((book.withSessions deps (sessionCall, now)).1.map Book.sessionReply,
        (book.withSessions deps (sessionCall, now)).2) := by
  rcases books.sessions with ⟨calls, keeps⟩
  obtain ⟨answer, frame, kept⟩ :=
    keeps.step noGrace sessionCall now fresh ids raws used
      fun user member => absurd member (by simp [opens])
  have stepped :
      (sessionMachine deps.toSessionDeps).step state.tables
          (sessionCall, now) =
        ((program.run (authAdapter deps.toAuthServices) now
            state.tables).1.map pack,
          (program.run (authAdapter deps.toAuthServices) now
            state.tables).2) := by
    rw [← Program.run_map, ← same]
    rfl
  rw [stepped] at answer frame kept
  rw [Program.run_map, run_account, run_auth]
  constructor
  · rw [Book.withSessions, ← answer]
    generalize (program.run _ now state.tables).1 = outcome
    cases outcome <;> rfl
  · exact books.moveSessions frame ⟨_, kept⟩

/-! ### The profile -/

theorem Books.me_agree (books : Books deps names history state book)
    (id : String) :
    Agree deps names (history ++ [call])
      ((AccountsReply.user <$> GetCurrentUser.execute id).run
        (accountsAdapter deps) now state)
      (book.me id, book) := by
  rw [Program.run_map, GetCurrentUser.execute, Program.perform_bind,
    Program.run_call_ok _ (mailingAdapter_findUserById id)]
  cases known : book.accounts id with
  | none =>
      rw [books.users.id_none known, Book.me, known]
      exact books.looked
  | some account =>
      obtain ⟨user, -, rfl, selected, shows_⟩ := books.users.id_some known
      rw [selected, Book.me, known]
      dsimp only
      rw [← shows_.toPublicUser_eq]
      exact books.looked

theorem Input.patch_eq_empty_iff (input : UpdateProfile.Input) :
    input.patch = {} ↔ input = ⟨none, none⟩ := by
  rcases input with ⟨displayName, avatarUrl⟩
  simp [UpdateProfile.Input.patch]

/-- Patching the shown fields keeps the password. -/
theorem Shows.patched {user : User} {account : Account}
    (shows_ : Shows deps history user account) (input : UpdateProfile.Input) :
    Shows deps history
      (PgUserRepository.patchUser now input.patch user)
      (account.patched input) where
  email := shows_.email
  displayName := congrArg (Option.getD _) shows_.displayName
  avatarUrl := congrArg (Option.getD _) shows_.avatarUrl
  verifiedAt := shows_.verifiedAt
  passwordUsed := shows_.passwordUsed
  passwordHash := shows_.passwordHash

theorem Books.updateProfile_agree
    (books : Books deps names history state book) (id : String)
    (input : UpdateProfile.Input) :
    Agree deps names (history ++ [call])
      ((AccountsReply.user <$> UpdateProfile.execute updateUser id input).run
        (accountsAdapter deps) now state)
      (book.updateProfile deps id input) := by
  rw [Program.run_map, UpdateProfile.execute, updateUser,
    Program.perform_bind, Program.run_call, accountsAdapter,
    Book.updateProfile]
  by_cases nothing : input = ⟨none, none⟩
  · rw [if_pos ((Input.patch_eq_empty_iff input).mpr nothing), if_pos nothing]
    exact books.looked
  · rw [if_neg (nothing ∘ (Input.patch_eq_empty_iff input).mp),
      if_neg nothing]
    refine books.refusing (fun stores => ?_) fun refused => ?_
    · cases known : book.accounts id with
      | none =>
          rw [mailingAdapter_error (authAdapter_update_error
            (PgUserRepository.update_missing stores (books.users.id_none known)
              now))]
          exact books.looked
      | some account =>
          obtain ⟨user, -, sameId, selected, shows_⟩ :=
            books.users.id_some known
          have shown :
              Shows deps history
                (PgUserRepository.patchUser now input.patch user) _ :=
            shows_.patched input
          rw [mailingAdapter_auth (authAdapter_update stores selected)]
          constructor
          · exact congrArg (fun dto => Except.ok (AccountsReply.user dto))
              (shown.toPublicUser_eq.trans (congrArg _ sameId))
          · exact books.later.revise known _ _ (fun _ => rfl) (fun _ => rfl)
              fun user shown => shown.patched input
    · rw [mailingAdapter_error (authAdapter_update_error
        (PgUserRepository.update_refused refused id now _))]
      rfl

/-! ### The requests for links -/

theorem Books.requestEmailVerification_agree
    (books : Books deps names history state book)
    (fresh : Fresh deps names (history ++ [call])) {id : String}
    {draws : EmailDraws} (drawn : draws ∈ mailDraws call.1) :
    Agree deps names (history ++ [call])
      (((fun _ => AccountsReply.done) <$> account
        (RequestEmailVerification.execute deps.toAccountDeps id draws)).run
        (accountsAdapter deps) now state)
      (.ok .done, book.requestEmailVerification deps id draws) := by
  rw [Program.run_map, run_account, RequestEmailVerification.execute,
    Program.perform_bind,
    Program.run_call_ok _ (mailingAdapter_findUserById id),
    Book.requestEmailVerification]
  cases known : book.accounts id with
  | none =>
      rw [books.users.id_none known]
      exact books.looked
  | some account =>
      obtain ⟨user, stored, sameId, selected, shows_⟩ :=
        books.users.id_some known
      rw [selected]
      dsimp only
      rw [← shows_.verifiedAt, ← shows_.email]
      cases verified : user.emailVerifiedAt with
      | some verifiedAt => exact books.looked
      | none =>
          have owner : ∃ user ∈ state.tables.users, user.id = id :=
            ⟨user, stored, sameId⟩
          have accepted := books.links.accepted fresh
            (verificationToken deps.toAccountDeps draws id) drawn
            rfl rfl owner
          dsimp only
          rw [if_pos rfl, run_insert_send accepted fun _ => rfl]
          exact ⟨rfl, books.grant fresh
            (verificationToken deps.toAccountDeps draws id)
            (verificationMail deps.toAccountDeps user.email draws.raw)
            drawn rfl rfl owner⟩

/-- The user an email finds shows the account the book finds. -/
theorem Books.find_cases (books : Books deps names history state book)
    (email : String) :
    (first (fun user => user.email = email) state.tables.users = none ∧
        book.find email = none) ∨
      ∃ user ∈ state.tables.users, ∃ account,
        first (fun user => user.email = email) state.tables.users =
            some user ∧
          book.find email = some (user.id, account) ∧
            Shows deps history user account := by
  cases known : book.registered email with
  | none =>
      left
      exact ⟨books.users.email_none known, by simp [Book.find, known]⟩
  | some id =>
      right
      obtain ⟨user, stored, account, rfl, -, selected, found, shows_⟩ :=
        books.users.email_some known
      exact ⟨user, stored, account, selected,
        by simp [Book.find, known, found], shows_⟩

theorem Books.requestPasswordReset_agree
    (books : Books deps names history state book)
    (fresh : Fresh deps names (history ++ [call])) {email : String}
    {draws : EmailDraws} (drawn : draws ∈ mailDraws call.1) :
    Agree deps names (history ++ [call])
      (((fun _ => AccountsReply.done) <$> account
        (RequestPasswordReset.execute deps.toAccountDeps email draws)).run
        (accountsAdapter deps) now state)
      (book.requestPasswordReset deps email draws) := by
  rw [Program.run_map, run_account, RequestPasswordReset.execute,
    Program.perform_bind]
  refine books.refusing (fun stores => ?_) fun refused => ?_
  swap
  · rw [Program.run_call_error _
      (mailingAdapter_findUserByEmail_refused refused)]
    rfl
  rw [Program.run_call_ok _ (mailingAdapter_findUserByEmail stores)]
  rcases books.find_cases (deps.normalizeEmail email) with
    ⟨selected, found⟩ | ⟨user, stored, account, selected, found, shows_⟩
  · rw [selected, found]
    exact books.looked
  · have owner : ∃ other ∈ state.tables.users, other.id = user.id :=
      ⟨user, stored, rfl⟩
    have accepted := books.links.accepted fresh
      (resetToken deps.toAccountDeps draws user.id) drawn rfl rfl owner
    rw [selected, found]
    dsimp only
    rw [← shows_.email, run_insert_send accepted fun _ => rfl]
    exact ⟨rfl, books.grant fresh (resetToken deps.toAccountDeps draws user.id)
      (resetMail deps.toAccountDeps user.email draws.raw) drawn rfl rfl owner⟩

/-! ### The redemption of links -/

/-- The tables after a token has been consumed. -/
def consumed (services : AuthServices) (raw : String)
    (kind : EmailTokenKind) (now : Time) (tables : AuthState) : AuthState :=
  { tables with
    emailTokens :=
      updateWhere (fun token => token.tokenHash = services.sha256Sync raw ∧
          token.kind = kind ∧ token.usedAt = none ∧ now < token.expiresAt)
        (fun token => { token with usedAt := some now }) tables.emailTokens }

/-- A token that redeems nothing is not found, and nothing changes. -/
theorem consume_none
    {raw : String} {kind : EmailTokenKind}
    (selected : first (fun token =>
        token.tokenHash = deps.sha256Sync raw ∧ token.kind = kind ∧
          token.usedAt = none ∧ now < token.expiresAt)
        state.tables.emailTokens = none)
    (unknown : ∀ link, book.links raw = some link →
      ¬ link.Redeemable kind now) :
    authAdapter deps.toAuthServices
          (.emailTokenRepo (.consume (deps.sha256Sync raw) kind)) now
          state.tables = .ok (none, state.tables) ∧
      book.redeem raw kind now = none := by
  constructor
  · have idle : updateWhere _
        (fun token : EmailToken => { token with usedAt := some now })
        state.tables.emailTokens = _ :=
      updateWhere_eq_self fun token stored usable =>
        absurd usable (first_eq_none_iff.mp selected token stored)
    simp only [authAdapter, PgEmailTokenRepository.handle, selected, idle]
    rfl
  · rw [Book.redeem]
    cases known : book.links raw with
    | none => rfl
    | some link => exact if_neg (unknown link known)

/-- The state after the redemption of a link, and what it was good for. -/
structure Redeemed (deps : AccountsDeps) (names : Set String)
    (history : List (AccountsCall × Time)) (before : Book)
    (state : AccountsState) (book : Book) (id : String) (user : User)
    (account : Account) : Prop where
  books : Books deps names history state book
  selected : first (fun other => other.id = id) state.tables.users = some user
  known : book.accounts id = some account
  sessions : book.sessions = before.sessions

/-- The token of a link is consumed, and the link is used up. -/
theorem Books.consume_some (books : Books deps names history state book)
    (fresh : Fresh deps names (history ++ [call])) {raw : String}
    (named : raw ∈ names) {kind : EmailTokenKind} {token : EmailToken}
    {link : Link}
    (selected : first (fun token =>
        token.tokenHash = deps.sha256Sync raw ∧ token.kind = kind ∧
          token.usedAt = none ∧ now < token.expiresAt)
        state.tables.emailTokens = some token)
    (known : book.links raw = some link)
    (redeemable : link.Redeemable kind now)
    (sameUser : token.userId = link.userId) :
    ∃ consumedToken user account redeemed,
      authAdapter deps.toAuthServices
          (.emailTokenRepo (.consume (deps.sha256Sync raw) kind)) now
          state.tables =
        .ok (some consumedToken,
          consumed deps.toAuthServices raw kind now state.tables) ∧
      book.redeem raw kind now = some (consumedToken.userId, redeemed) ∧
      Redeemed deps names (history ++ [call]) book
        { state with
          tables := consumed deps.toAuthServices raw kind now state.tables }
        redeemed consumedToken.userId user account := by
  obtain ⟨user, stored, sameId⟩ :=
    books.links.owner token (mem_of_first selected)
  obtain ⟨account, knownAccount, -⟩ :=
    books.users.byId.value_of_row (Set.mem_univ token.userId) stored sameId
  refine ⟨{ token with usedAt := some now }, user, account,
    { book with
      links :=
        Function.update book.links raw (some { link with used := true }) },
    ?_, ?_, ?_⟩
  · simp only [authAdapter, PgEmailTokenRepository.handle, selected]
    rfl
  · rw [Book.redeem, known, Option.bind_some, if_pos redeemable, sameUser]
  · exact
      { books :=
          { users := books.users.later
            links := books.links.consume fresh named known redeemable
            sessions := by
              rcases books.sessions with ⟨calls, keeps⟩
              exact ⟨calls, keeps.later.amongUsers rfl fun user stored =>
                ⟨user, stored, rfl⟩⟩
            outbox := books.outbox }
        selected := by
          have found := books.users.byId.unique.first_eq_some stored
          rwa [sameId] at found
        known := knownAccount
        sessions := rfl }

theorem Books.confirmEmailVerification_agree
    (books : Books deps names history state book)
    (fresh : Fresh deps names (history ++ [call])) {raw : String}
    (named : raw ∈ names) (verifiedAt : Time) :
    Agree deps names (history ++ [call])
      (((fun _ => AccountsReply.done) <$> account (auth
        (ConfirmEmailVerification.execute deps.toAuthServices verifiedAt
          raw))).run (accountsAdapter deps) now state)
      (book.confirmEmailVerification raw verifiedAt now) := by
  rw [Program.run_map, run_account, run_auth,
    ConfirmEmailVerification.execute, emailTokenRepo.consume,
    Program.perform_bind, Book.confirmEmailVerification]
  rcases books.links.select named .verify now with
    ⟨token, link, selected, known, redeemable, sameUser⟩ | ⟨selected, unknown⟩
  · obtain ⟨consumedToken, user, account, redeemed, answered, ofBook, after⟩ :=
      books.consume_some fresh named selected known redeemable sameUser
    rw [Program.run_call_ok _ answered, ofBook]
    dsimp only
    rw [after.known, userRepo.update, Program.perform_bind,
      Program.run_call_ok _ (authAdapter_update
        (UserPatch.storable_of_kept rfl rfl) after.selected)]
    refine ⟨rfl, after.books.revise after.known _ _ (fun _ => rfl)
      (fun _ => rfl) fun user shown => ?_⟩
    exact { shown with verifiedAt := rfl }
  · obtain ⟨answered, ofBook⟩ := consume_none selected unknown
    rw [Program.run_call_ok _ answered, ofBook]
    exact books.looked

theorem Books.confirmPasswordReset_agree
    (books : Books deps names history state book)
    {raw newPassword salt : String} {at_ : Time}
    (fresh : Fresh deps names
      (history ++ [(.confirmPasswordReset raw newPassword salt, at_)]))
    (named : raw ∈ names) :
    Agree deps names
      (history ++ [(.confirmPasswordReset raw newPassword salt, at_)])
      (((fun _ => AccountsReply.done) <$> account (auth
        (ConfirmPasswordReset.execute deps.toAuthServices salt raw
          newPassword))).run (accountsAdapter deps) now state)
      (book.confirmPasswordReset raw newPassword now) := by
  rw [Program.run_map, run_account, run_auth,
    ConfirmPasswordReset.execute, emailTokenRepo.consume,
    Program.perform_bind, Book.confirmPasswordReset]
  rcases books.links.select named .reset now with
    ⟨token, link, selected, known, redeemable, sameUser⟩ | ⟨selected, unknown⟩
  · obtain ⟨consumedToken, user, account, redeemed, answered, ofBook, after⟩ :=
      books.consume_some fresh named selected known redeemable sameUser
    rw [Program.run_call_ok _ answered, ofBook]
    dsimp only
    rw [after.known, passwordHasher.hash, Program.perform_bind,
      Program.run_call_ok _ rfl, userRepo.update, Program.perform_bind,
      Program.run_call_ok _ (authAdapter_update
        (UserPatch.storable_of_kept rfl rfl) after.selected)]
    have revised := after.books.revise after.known
      (PgUserRepository.patchUser now
        { passwordHash := some (deps.argon2id newPassword salt) })
      { account with password := newPassword }
      (fun _ => rfl) (fun _ => rfl) fun user shown =>
        { shown with
          passwordUsed := along_last List.mem_cons_self
          passwordHash := ⟨salt, along_last List.mem_cons_self, rfl⟩ }
    rcases revised.sessions with ⟨calls, keeps⟩
    exact ⟨rfl, { revised with
      sessions := ⟨calls, keeps.userRevoked consumedToken.userId now⟩ }⟩
  · obtain ⟨answered, ofBook⟩ := consume_none selected unknown
    rw [Program.run_call_ok _ answered, ofBook]
    exact books.looked

/-! ### Signing in -/

theorem Books.login_agree (noGrace : deps.graceWindowSec = 0)
    (books : Books deps names history state book)
    {input : LoginUser.Input} {draws : SessionDraws} {at_ : Time}
    (fresh : Fresh deps names (history ++ [(.login input draws, at_)])) :
    Agree deps names (history ++ [(.login input draws, at_)])
      ((AccountsReply.signedIn <$> LoginUser.execute deps input draws).run
        (accountsAdapter deps) now state)
      (book.login deps input draws now) := by
  rw [Program.run_map, LoginUser.execute, Program.perform_bind]
  refine books.refusing (fun stores => ?_) fun refused => ?_
  swap
  · rw [Program.run_call_error _
      (mailingAdapter_findUserByEmail_refused refused)]
    rfl
  rw [Program.run_call_ok _ (mailingAdapter_findUserByEmail stores)]
  rcases books.find_cases (deps.normalizeEmail input.email) with
    ⟨selected, found⟩ | ⟨user, stored, account, selected, found, shows_⟩
  · rw [selected, found]
    exact books.looked
  · rw [selected, found]
    obtain ⟨salt, saltUsed, hash⟩ := shows_.passwordHash
    have verified := fresh.verify account.password
      (along_later shows_.passwordUsed) salt (along_later saltUsed)
      input.password (along_last List.mem_cons_self)
    rw [← hash] at verified
    dsimp only
    rw [Program.perform_bind, Program.run_call_ok _ rfl, verified]
    by_cases right : account.password = input.password
    · rcases books.sessions with ⟨calls, keeps⟩
      obtain ⟨after, ran, frame, kept⟩ :=
        keeps.signIn noGrace (some ⟨input.userAgent, input.ip⟩) now fresh
          rfl rfl rfl ⟨user, stored, rfl⟩
      rw [if_pos right, if_pos (decide_eq_true right), Program.run_bind,
        run_account, run_auth, ran, Book.signIn, ← shows_.toPublicUser_eq]
      exact ⟨rfl, books.moveSessions frame kept⟩
    · rw [if_neg right, if_neg (by simpa using right)]
      exact books.looked

/-- The row a registration creates. -/
def registered (deps : AccountDeps) (input : RegisterUser.Input)
    (draws : RegisterUser.Draws) (now : Time) : User :=
  (RegisterUser.newUser deps input draws
    (deps.argon2id input.password draws.salt)).insertedAt now

/-- A registration of an address that is known is a conflict. -/
theorem run_register_known {input : RegisterUser.Input}
    {draws : RegisterUser.Draws} {user : User}
    (stores : Storable [some (deps.normalizeEmail input.email)])
    (known : first (fun user => user.email = deps.normalizeEmail input.email)
      state.tables.users = some user) :
    (RegisterUser.execute deps.toAccountDeps input draws).run
        (mailingAdapter deps.toAuthServices) now state =
      (.error (.conflictError "Email already in use"), state) := by
  rw [RegisterUser.execute, Program.perform_bind,
    Program.run_call_ok _ (mailingAdapter_findUserByEmail stores), known]
  rfl

/-- The texts of a new user are its address and its display name. -/
theorem storable_newUser_iff {input : RegisterUser.Input}
    {draws : RegisterUser.Draws} {passwordHash : String}
    (stores : Storable [some (deps.normalizeEmail input.email)]) :
    Storable (RegisterUser.newUser deps.toAccountDeps input draws
        passwordHash).texts ↔
      Storable [some input.displayName] := by
  have email := storable_singleton.mp stores
  simp [NewUser.texts, RegisterUser.newUser, Storable, email]

/-- A display name that cannot be stored is refused by the insertion. -/
theorem run_register_refused {input : RegisterUser.Input}
    {draws : RegisterUser.Draws}
    (stores : Storable [some (deps.normalizeEmail input.email)])
    (newEmail : first
      (fun user => user.email = deps.normalizeEmail input.email)
      state.tables.users = none)
    (refused : ¬ Storable [some input.displayName]) :
    (RegisterUser.execute deps.toAccountDeps input draws).run
        (mailingAdapter deps.toAuthServices) now state =
      (.error (.databaseError .characterNotInRepertoire), state) := by
  have violates (passwordHash : String) :
      PgUserRepository.createViolation state.tables.users
          (RegisterUser.newUser deps.toAccountDeps input draws passwordHash) =
        some .characterNotInRepertoire :=
    if_pos ((storable_newUser_iff stores).not.mpr refused)
  rw [RegisterUser.execute, Program.perform_bind,
    Program.run_call_ok _ (mailingAdapter_findUserByEmail stores), newEmail]
  dsimp only
  rw [Program.run_bind, run_auth, passwordHasher.hash,
    Program.run_perform_ok rfl]
  dsimp only
  rw [Program.perform_bind, Program.run_call_error]
  simp only [mailingAdapter, accountAdapter, violates]
  rfl

theorem run_register {input : RegisterUser.Input} {draws : RegisterUser.Draws}
    {session : Session} {after : AuthState}
    (stores : Storable [some (deps.normalizeEmail input.email)])
    (storesName : Storable [some input.displayName])
    (newEmail : first
      (fun user => user.email = deps.normalizeEmail input.email)
      state.tables.users = none)
    (newId : ∀ user ∈ state.tables.users, user.id ≠ draws.userId)
    (opened :
      (createSession deps.toSessionDeps draws.session draws.userId
          (some ⟨input.userAgent, input.ip⟩)).run
          (authAdapter deps.toAuthServices) now
          { state.tables with
            users :=
              state.tables.users ++
                [registered deps.toAccountDeps input draws now] } =
        (.ok session, after)) :
    (RegisterUser.execute deps.toAccountDeps input draws).run
        (mailingAdapter deps.toAuthServices) now state =
      (.ok { session with
          user :=
            toPublicUser (registered deps.toAccountDeps input draws now) },
        { state with tables := after }) := by
  have accepted :
      PgUserRepository.createViolation state.tables.users
          (RegisterUser.newUser deps.toAccountDeps input draws
            (deps.argon2id input.password draws.salt)) = none :=
    PgUserRepository.createViolation_eq_none_iff.mpr
      ⟨(storable_newUser_iff stores).mpr storesName, newId,
        first_eq_none_iff.mp newEmail⟩
  have created :
      accountAdapter deps.toAuthServices
          (.createUser (RegisterUser.newUser deps.toAccountDeps input draws
            (deps.argon2id input.password draws.salt))) now state.tables =
        .ok (registered deps.toAccountDeps input draws now,
          { state.tables with
            users :=
              state.tables.users ++
                [registered deps.toAccountDeps input draws now] }) := by
    simp only [accountAdapter, accepted]
    rfl
  rw [RegisterUser.execute, Program.perform_bind,
    Program.run_call_ok _ (mailingAdapter_findUserByEmail stores), newEmail]
  dsimp only
  rw [Program.run_bind, run_auth, passwordHasher.hash,
    Program.run_perform_ok rfl]
  dsimp only
  rw [Program.perform_bind, Program.run_call_ok _ (mailingAdapter_ok created),
    Program.run_bind, run_auth]
  dsimp only
  rw [opened]
  simp only [mailOf, List.append_nil]
  rfl

/-- A registration, and the mail it goes on to send. -/
theorem step_register (input : RegisterUser.Input)
    (draws : RegisterUser.Draws) :
    (accountsMachine deps).step state (.register input draws, now) =
      match (RegisterUser.execute deps.toAccountDeps input draws).run
        (mailingAdapter deps.toAuthServices) now state with
      | (.error error, after) => (.error error, after)
      | (.ok reply, after) =>
          (.ok (.signedIn reply),
            ((RegisterUser.sendVerificationEmail deps.toAccountDeps
              draws.mail draws.userId
              (deps.normalizeEmail input.email)).run
              (mailingAdapter deps.toAuthServices) now after).2) := by
  simp only [accountsMachine, AccountsCall.program,
    AccountsCall.background, Program.run_map, run_account]
  rcases (RegisterUser.execute deps.toAccountDeps input draws).run
    (mailingAdapter deps.toAuthServices) now state with ⟨outcome, after⟩
  cases outcome <;> rfl

/-- A registration with storable texts of an address that is free. -/
theorem Books.enter_agree (noGrace : deps.graceWindowSec = 0)
    (books : Books deps names history state book)
    {input : RegisterUser.Input} {draws : RegisterUser.Draws}
    (fresh : Fresh deps names (history ++ [(.register input draws, now)]))
    (known : book.registered (deps.normalizeEmail input.email) = none)
    (stores : Storable [some (deps.normalizeEmail input.email)])
    (storesName : Storable [some input.displayName]) :
    let account := newAccount deps.toAccountDeps input
    let signedIn :=
      (book.enter draws.userId account).signIn deps draws.session
        draws.userId account now
    Agree deps names (history ++ [(.register input draws, now)])
      ((accountsMachine deps).step state (.register input draws, now))
      (signedIn.1,
        signedIn.2.grantVerification deps draws.mail draws.userId
          account.email) := by
  intro account signedIn
  rw [step_register]
  have newId : ∀ user ∈ state.tables.users, user.id ≠ draws.userId := by
    intro user stored sameId
    exact not_mem_along fresh.userIds List.mem_cons_self
      (sameId ▸ books.users.drawn user stored)
  let user := registered deps.toAccountDeps input draws now
  let users := state.tables.users ++ [user]
  have owner : ∃ other ∈ users, other.id = draws.userId :=
    ⟨user, List.mem_concat_self, rfl⟩
  have stay : ∀ other ∈ state.tables.users, ∃ same ∈ users,
      same.id = other.id := fun other stored =>
    ⟨other, List.mem_append_left _ stored, rfl⟩
  have drawn : draws.mail ∈ mailDraws (.register input draws) :=
    List.mem_singleton_self _
  -- the user, with the account's password under the salted hash
  have enrols : Enrols deps (history ++ [(.register input draws, now)])
      users (Function.update book.accounts draws.userId (some account))
      (Function.update book.registered account.email
        (some draws.userId)) :=
    books.users.enter newId known List.mem_cons_self
      ⟨rfl, rfl, rfl, rfl, along_last List.mem_cons_self, draws.salt,
        along_last List.mem_cons_self, rfl⟩
  -- the session, opened for the new user
  rcases books.sessions with ⟨calls, keeps⟩
  have keepsUsers : Keeps deps history { state.tables with users } _ _ :=
    keeps.amongUsers rfl stay
  obtain ⟨after, opened, frame, kept⟩ :=
    keepsUsers.signIn noGrace (some ⟨input.userAgent, input.ip⟩) now fresh
      rfl rfl rfl owner
  rw [run_register stores storesName (books.users.email_none known) newId
    opened]
  -- the link, mailed in the background
  have grants := books.links.amongUsers stay
  have accepted := grants.accepted fresh
    (verificationToken deps.toAccountDeps draws.mail draws.userId) drawn
    rfl rfl owner
  have tokens : after.emailTokens = state.tables.emailTokens := frame.2
  have usersAfter : after.users = users := frame.1
  rw [← tokens, ← usersAfter] at accepted
  dsimp only
  rw [RegisterUser.sendVerificationEmail,
    run_insert_send accepted fun _ => rfl]
  refine ⟨rfl, ?_⟩
  exact
    { users := usersAfter ▸ enrols
      links := by
        rw [usersAfter, tokens]
        exact grants.insert fresh drawn rfl rfl owner
      sessions := by
        rcases kept with ⟨calls, keeps⟩
        exact ⟨calls, keeps.amongUsers rfl fun user stored =>
          ⟨user, stored, rfl⟩⟩
      outbox := by rw [books.outbox]; rfl }

theorem Books.register_agree (noGrace : deps.graceWindowSec = 0)
    (books : Books deps names history state book)
    {input : RegisterUser.Input} {draws : RegisterUser.Draws}
    (fresh : Fresh deps names (history ++ [(.register input draws, now)])) :
    Agree deps names (history ++ [(.register input draws, now)])
      ((accountsMachine deps).step state (.register input draws, now))
      (book.register deps input draws now) := by
  unfold Book.register
  refine books.refusing (fun stores => ?_) fun refused => ?_
  · cases known : book.registered (deps.normalizeEmail input.email) with
    | some id =>
        obtain ⟨user, -, -, -, -, selected, -⟩ := books.users.email_some known
        rw [step_register, run_register_known stores selected]
        exact books.looked
    | none =>
        refine books.refusing
          (books.enter_agree noGrace fresh known stores) fun refused => ?_
        rw [step_register, run_register_refused stores
          (books.users.email_none known) refused]
  · rw [step_register, RegisterUser.execute, Program.perform_bind,
      Program.run_call_error _ (mailingAdapter_findUserByEmail_refused refused)]

/-- One call, whichever it is. -/
theorem Books.step (noGrace : deps.graceWindowSec = 0)
    (books : Books deps names history state book)
    (call : AccountsCall × Time)
    (fresh : Fresh deps names (history ++ [call])) :
    Agree deps names (history ++ [call])
      ((accountsMachine deps).step state call) (book.step deps call) := by
  rcases call with ⟨call, now⟩
  cases call with
  | register input draws => exact books.register_agree noGrace fresh
  | login input draws =>
      rw [step_eq_run rfl]
      exact books.login_agree noGrace fresh
  | refresh rawToken sessionMeta draws =>
      rw [step_eq_run rfl]
      exact books.session_agree noGrace
        (.refresh draws rawToken sessionMeta) fresh rfl rfl rfl rfl rfl
  | logout rawToken =>
      rw [step_eq_run rfl]
      exact books.session_agree noGrace (.revoke rawToken) fresh rfl rfl rfl
        rfl rfl
  | me userId =>
      rw [step_eq_run rfl]
      exact books.me_agree userId
  | updateProfile userId input =>
      rw [step_eq_run rfl]
      exact books.updateProfile_agree userId input
  | requestEmailVerification userId draws =>
      rw [step_eq_run rfl]
      exact books.requestEmailVerification_agree fresh
        (List.mem_singleton_self draws)
  | confirmEmailVerification rawToken verifiedAt =>
      rw [step_eq_run rfl]
      exact books.confirmEmailVerification_agree fresh
        (fresh.named rawToken (along_last (List.mem_singleton_self _)))
        verifiedAt
  | requestPasswordReset email draws =>
      rw [step_eq_run rfl]
      exact books.requestPasswordReset_agree fresh
        (List.mem_singleton_self draws)
  | confirmPasswordReset rawToken newPassword salt =>
      rw [step_eq_run rfl]
      exact books.confirmPasswordReset_agree fresh
        (fresh.named rawToken (along_last (List.mem_singleton_self _)))

end Steps

/-! ## Whole runs -/

section WholeRuns

variable {deps : AccountsDeps} {names : Set String}
  {calls : List (AccountsCall × Time)}

/-- The system before the first registration. -/
def noAccounts : AccountsState where
  tables := SessionRefinement.noSessions [] []
  outbox := []

theorem books_noAccounts : Books deps names [] noAccounts Book.empty where
  users := ⟨.empty, .empty, by simp [noAccounts, SessionRefinement.noSessions]⟩
  links :=
    { tabulated := .empty
      owner := by simp [noAccounts, SessionRefinement.noSessions]
      drawnId := by simp [noAccounts, SessionRefinement.noSessions]
      drawnRaw := by simp [Book.empty] }
  sessions :=
    ⟨[], SessionRefinement.represents_noSessions, by simp,
      List.nil_sublist _, List.nil_sublist _, List.nil_subset _⟩
  outbox := rfl

/-- Along a run the tables answer as the book does and represent it. -/
theorem run_books (noGrace : deps.graceWindowSec = 0)
    (fresh : Fresh deps names calls) :
    (accountsMachine deps).answers noAccounts calls =
        (Book.machine deps).answers Book.empty calls ∧
      Books deps names calls ((accountsMachine deps).reach noAccounts calls)
        ((Book.machine deps).reach Book.empty calls) := by
  refine
    @Transition.Machine.simulation _ _ _ _ _ _ (Books deps names)
      (Fresh deps names) ?_ ?_ _ _ books_noAccounts calls fresh
  · intro history call allowed
    exact allowed.initial
  · intro history call low high allowed related
    have agree := related.step noGrace call allowed
    exact ⟨agree.answer, agree.books⟩

/--
Run one after another with the grace window closed, the authentication use cases
behave as the book of accounts.

The answers are the same, the same mails have been sent in the same order, and
what the table of users shows of an id is the profile in the book.
-/
theorem accounts_refinement (noGrace : deps.graceWindowSec = 0)
    (fresh : Fresh deps names calls) :
    (accountsMachine deps).answers noAccounts calls =
        (Book.machine deps).answers Book.empty calls ∧
      ((accountsMachine deps).reach noAccounts calls).outbox =
        ((Book.machine deps).reach Book.empty calls).outbox ∧
      ∀ id,
        (first (fun user => user.id = id)
            ((accountsMachine deps).reach noAccounts
              calls).tables.users).map toPublicUser =
          (((Book.machine deps).reach Book.empty calls).accounts id).map
            fun account => account.profile id := by
  obtain ⟨sameAnswers, books⟩ := run_books noGrace fresh
  refine ⟨sameAnswers, books.outbox, fun id => ?_⟩
  cases known : ((Book.machine deps).reach Book.empty calls).accounts id with
  | none => rw [books.users.id_none known]; rfl
  | some account =>
      obtain ⟨user, -, sameId, selected, shows_⟩ := books.users.id_some known
      rw [selected, Option.map_some, Option.map_some, shows_.toPublicUser_eq,
        sameId]

end WholeRuns

/-! ### A sample run -/

/-- The SHA-256 digests of three links and another peppered token. -/
def sampleDigest : String → String
  | "link-1" =>
      "8e9fa224f488a601af1b14e867eb6bf8496025b1bb5c0a78d1b94d3c7122efec"
  | "link-2" =>
      "ad35fe9f886138cdb26c03bee187ad40a53c20ac773a5eba1b4947b59e44c320"
  | "link-3" =>
      "e9236248b59124a07cd481e64bb681af0b72208170cbb79d20ee640a6c19821c"
  | "pepperraw-3" =>
      "b131787b8b6afe0013ce092e189e92bf10d8deaaf1ca75372821eed35d6b4717"
  | content => Sessions.sampleDigest content

/-- A password hash starts with its salt, and is checked by hashing again. -/
def sampleDeps : AccountsDeps where
  toSessionDeps := { Sessions.sampleDeps 0 with sha256Sync := sampleDigest }
  toLowerCase := id
  trim := id
  emailVerifyUrlBase := "http://localhost:5173/verify"
  emailResetUrlBase := "http://localhost:5173/reset"
  argon2verify := fun plain hash =>
    ["$salt-1$", "$salt-2$"].any fun salt => salt ++ plain == hash
  noColumns := .typeError

/-- The draws of the mail with the numbered link. -/
def sampleMail (number : String) : EmailDraws where
  raw := "link-" ++ number
  id := "email-token-" ++ number
  now := 0

def sampleLogin (password : String) : LoginUser.Input where
  email := "ana@example.com"
  password := password
  userAgent := none
  ip := none

/--
Ana registers and forgets her password, which she resets; the old password and
the session of the registration are of no use afterwards.
-/
def sampleRun : List (AccountsCall × Time) :=
  [(.register
      { email := "ana@example.com", password := "first password"
        displayName := "Ana", userAgent := none, ip := none }
      { salt := "$salt-1$", userId := "user-1"
        session := sampleDraws 0 "0", mail := sampleMail "1" }, 0),
    (.requestPasswordReset "ana@example.com" (sampleMail "2"), 1000),
    (.confirmPasswordReset "link-2" "second password" "$salt-2$", 2000),
    (.login (sampleLogin "first password") (sampleDraws 3000 "1"), 3000),
    (.refresh "raw-0" none (sampleDraws 4000 "2"), 4000),
    (.login (sampleLogin "second password") (sampleDraws 5000 "3"), 5000)]

theorem sampleRun_fresh :
    Fresh sampleDeps { raw | raw ∈ along hashedLinks sampleRun }
      sampleRun where
  sessionIds := by decide
  sessionRaws := by decide
  userIds := by decide
  linkIds := by decide
  linkRaws := by decide
  refreshHash := by
    have injective : ∀ raw ∈ along hashedRaws sampleRun,
        ∀ other ∈ along hashedRaws sampleRun,
          sampleDeps.hashRefresh raw = sampleDeps.hashRefresh other →
            raw = other := by
      decide
    exact fun raw member other otherMember =>
      injective raw member other otherMember
  named := fun _ member => member
  linkHash := by
    have injective : ∀ raw ∈ along hashedLinks sampleRun,
        ∀ other ∈ along hashedLinks sampleRun,
          sampleDeps.sha256Sync raw = sampleDeps.sha256Sync other →
            raw = other := by
      decide
    exact fun raw member other otherMember =>
      injective raw member other otherMember
  verify := by decide

theorem accounts_refinement_sampleRun :
    (accountsMachine sampleDeps).answers noAccounts sampleRun =
      [.ok (.signedIn ⟨⟨"user-1.jti-0", "raw-0"⟩,
          ⟨"user-1", "ana@example.com", "Ana", none, none⟩⟩),
        .ok .done, .ok .done,
        .error (.authError "Invalid credentials"),
        .error (.authError "Invalid refresh token"),
        .ok (.signedIn ⟨⟨"user-1.jti-3", "raw-3"⟩,
          ⟨"user-1", "ana@example.com", "Ana", none, none⟩⟩)] :=
  (accounts_refinement rfl sampleRun_fresh).1.trans (by decide)

end ChatBackend.Auth.AccountRefinement
