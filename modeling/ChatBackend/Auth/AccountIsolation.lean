import ChatBackend.Auth.AccountRefinement
import ChatBackend.Transition.Noninterference

/-!
# What a party can learn of another party's accounts

A party has emails, and the ids, tokens and links that are drawn for them.  A
call is on the party's side or on the other side if all it names is.  From the
other side a call may also knock on an email of the party: log in with a
password that the party never set, or request a reset, whose link is mailed to
the party.  To register an email of the party is no such call: it is answered
with a conflict, which tells that the email is registered.

The calls of the party do not interfere with the others: these are answered as
in a run without the party, where its emails are not registered at all.  The
view of the book under which this unwinds hides what is filed under the names of
the party.
-/

namespace ChatBackend.Auth.AccountIsolation

open Transition
open ChatBackend.Auth.TokenStore
open ChatBackend.Auth.Sessions
open ChatBackend.Auth.SessionLedger
open ChatBackend.Auth.EmailTokens
open ChatBackend.Auth.Accounts
open ChatBackend.Auth.AccountBook
open ChatBackend.Auth.AccountRefinement

/-! ## Parties -/

/-- The names that belong to a party, and the passwords it sets. -/
structure Party where
  emails : String → Bool
  ids : String → Bool
  families : String → Bool
  raws : String → Bool
  links : String → Bool
  passwords : String → Bool

namespace Party

/-- All names of the call are on one side of the party. -/
def Sided (deps : AccountDeps) (party : Party) (side : Bool) :
    AccountsCall → Prop
  | .register input draws =>
      party.emails (deps.normalizeEmail input.email) = side ∧
        party.ids draws.userId = side ∧
        party.families draws.session.familyId = side ∧
        party.raws draws.session.raw = side ∧
        party.links draws.mail.raw = side ∧
        (side = true → party.passwords input.password = true)
  | .login input draws =>
      party.emails (deps.normalizeEmail input.email) = side ∧
        party.families draws.familyId = side ∧ party.raws draws.raw = side
  | .refresh rawToken _ draws =>
      party.raws rawToken = side ∧ party.raws draws.raw = side
  | .logout rawToken => party.raws rawToken = side
  | .me userId => party.ids userId = side
  | .updateProfile userId _ => party.ids userId = side
  | .requestEmailVerification userId draws =>
      party.ids userId = side ∧ party.links draws.raw = side
  | .confirmEmailVerification rawToken _ => party.links rawToken = side
  | .requestPasswordReset email draws =>
      party.emails (deps.normalizeEmail email) = side ∧
        party.links draws.raw = side
  | .confirmPasswordReset rawToken newPassword _ =>
      party.links rawToken = side ∧
        (side = true → party.passwords newPassword = true)

/-- The call is on the other side but for an email of the party. -/
def Knocks (deps : AccountDeps) (party : Party) : AccountsCall → Prop
  | .login input _ =>
      party.emails (deps.normalizeEmail input.email) = true ∧
        party.passwords input.password = false
  | .requestPasswordReset email draws =>
      party.emails (deps.normalizeEmail email) = true ∧
        party.links draws.raw = true
  | _ => False

/-! ## The view of the other side -/

/-- The ledger without the sessions of the party. -/
def viewLedger (party : Party) (ledger : Ledger) : Ledger where
  families := hide party.families ledger.families
  issuedTo := hide party.raws ledger.issuedTo

/-- The book without what belongs to the party. -/
def view (party : Party) (book : Book) : Book where
  accounts := hide party.ids book.accounts
  registered := hide party.emails book.registered
  links := hide party.links book.links
  sessions := party.viewLedger book.sessions
  outbox := book.outbox.filter fun mail => !party.emails mail.address

/-- What is filed under a name is on the name's side. -/
structure Divides (party : Party) (book : Book) : Prop where
  registered : ∀ email id, book.registered email = some id →
    party.emails email = party.ids id
  email : ∀ id account, book.accounts id = some account →
    party.emails account.email = party.ids id
  password : ∀ id account, book.accounts id = some account →
    party.ids id = true → party.passwords account.password = true
  link : ∀ raw link, book.links raw = some link →
    party.links raw = party.ids link.userId
  issued : ∀ raw id, book.sessions.issuedTo raw = some id →
    party.raws raw = party.families id
  owner : ∀ id family, book.sessions.families id = some family →
    party.families id = party.ids family.user
  current : ∀ id family, book.sessions.families id = some family →
    party.families id = party.raws family.current

/--
A change of a book, of what is on a side, and the same change of its view.  It
is not seen if it is on the party's side.
-/
structure Follows (party : Party) (side : Bool) (before after : Book)
    (onView : Book) : Prop where
  divides : party.Divides after
  hidden : side = true → party.view after = party.view before
  shown : side = false → party.view after = onView

section Changes

variable {deps : AccountsDeps} {party : Party} {side : Bool} {book : Book}

theorem divides_empty : party.Divides Book.empty := by
  constructor <;> simp [Book.empty, Ledger.empty]

theorem view_empty : party.view Book.empty = Book.empty := by
  have hidden {Value : Type} (own : String → Bool) :
      hide own (fun _ => (none : Option Value)) = fun _ => none := by
    funext name
    simp only [hide]
    cases own name <;> rfl
  simp only [view, viewLedger, Book.empty, Ledger.empty, hidden,
    List.filter_nil]

/-! ### Accounts -/

theorem Divides.enter (divides : party.Divides book) {id : String}
    {account : Account} (ofEmail : party.emails account.email = side)
    (ofId : party.ids id = side)
    (ofPassword : side = true → party.passwords account.password = true) :
    party.Follows side book (book.enter id account)
      ((party.view book).enter id account) where
  divides :=
    { divides with
      registered :=
        forall_entry_update divides.registered (ofEmail.trans ofId.symm)
      email := forall_entry_update divides.email (ofEmail.trans ofId.symm)
      password :=
        forall_entry_update divides.password fun own =>
          ofPassword (ofId.symm.trans own) }
  hidden := by
    rintro rfl
    simp only [view, Book.enter, hide_update_hidden ofId,
      hide_update_hidden ofEmail]
  shown := by
    rintro rfl
    simp only [view, Book.enter, hide_update_shown ofId,
      hide_update_shown ofEmail]

theorem Divides.revise (divides : party.Divides book) {id : String}
    {account : Account} (ofEmail : party.emails account.email = side)
    (ofId : party.ids id = side)
    (ofPassword : side = true → party.passwords account.password = true) :
    party.Follows side book (book.revise id account)
      ((party.view book).revise id account) where
  divides :=
    { divides with
      email := forall_entry_update divides.email (ofEmail.trans ofId.symm)
      password :=
        forall_entry_update divides.password fun own =>
          ofPassword (ofId.symm.trans own) }
  hidden := by
    rintro rfl
    simp only [view, Book.revise, hide_update_hidden ofId]
  shown := by
    rintro rfl
    simp only [view, Book.revise, hide_update_shown ofId]

/-! ### Links -/

theorem Divides.grant (divides : party.Divides book) {raw : String}
    {link : Link} {mail : Mail} (ofRaw : party.links raw = side)
    (ofUser : party.ids link.userId = side)
    (ofAddress : party.emails mail.address = side) :
    party.Follows side book (book.grant raw link mail)
      ((party.view book).grant raw link mail) where
  divides :=
    { divides with
      link := forall_entry_update divides.link (ofRaw.trans ofUser.symm) }
  hidden := by
    rintro rfl
    simp [view, Book.grant, hide_update_hidden ofRaw, ofAddress]
  shown := by
    rintro rfl
    simp [view, Book.grant, hide_update_shown ofRaw, ofAddress]

theorem Divides.grantVerification (divides : party.Divides book)
    {draws : EmailDraws} {id email : String}
    (ofRaw : party.links draws.raw = side) (ofId : party.ids id = side)
    (ofEmail : party.emails email = side) :
    party.Follows side book (book.grantVerification deps draws id email)
      ((party.view book).grantVerification deps draws id email) :=
  divides.grant ofRaw ofId ofEmail

theorem Divides.grantReset (divides : party.Divides book)
    {draws : EmailDraws} {id email : String}
    (ofRaw : party.links draws.raw = side) (ofId : party.ids id = side)
    (ofEmail : party.emails email = side) :
    party.Follows side book (book.grantReset deps draws id email)
      ((party.view book).grantReset deps draws id email) :=
  divides.grant ofRaw ofId ofEmail

theorem redeem_eq_some_iff {raw : String} {kind : EmailTokenKind}
    {now : Time} {id : String} {after : Book} :
    book.redeem raw kind now = some (id, after) ↔
      ∃ link, book.links raw = some link ∧ link.Redeemable kind now ∧
        link.userId = id ∧
        { book with
          links :=
            Function.update book.links raw
              (some { link with used := true }) } = after := by
  simp only [Book.redeem, Option.bind_eq_some_iff]
  refine exists_congr fun link => and_congr_right fun _ => ?_
  by_cases redeemable : link.Redeemable kind now <;> simp [redeemable]

/-- A redemption is of a link of the side its token is on. -/
theorem Divides.redeem (divides : party.Divides book) {raw : String}
    {kind : EmailTokenKind} {now : Time} {id : String} {after : Book}
    (ofRaw : party.links raw = side)
    (redeemed : book.redeem raw kind now = some (id, after)) :
    party.ids id = side ∧
      party.Follows side book after (party.view after) := by
  obtain ⟨link, known, -, rfl, rfl⟩ := redeem_eq_some_iff.mp redeemed
  have ofUser := (divides.link raw link known).symm.trans ofRaw
  refine ⟨ofUser, ?_⟩
  exact
    { divides :=
        { divides with
          link := forall_entry_update divides.link (ofRaw.trans ofUser.symm) }
      hidden := by
        rintro rfl
        simp only [view, hide_update_hidden ofRaw]
      shown := fun _ => rfl }

/-- A token of the other side redeems the same on the view. -/
theorem redeem_view {raw : String} {kind : EmailTokenKind} {now : Time}
    (ofRaw : party.links raw = false) :
    (party.view book).redeem raw kind now =
      (book.redeem raw kind now).map fun redeemed =>
        (redeemed.1, party.view redeemed.2) := by
  simp only [Book.redeem, view, hide_of_shown ofRaw]
  cases book.links raw with
  | none => rfl
  | some link =>
      by_cases redeemable : link.Redeemable kind now
      · simp [redeemable, hide_update_shown ofRaw]
      · simp [redeemable]

/-! ### Sessions -/

theorem Divides.issue (divides : party.Divides book) {id : String}
    {family : Family} (ofId : party.families id = side)
    (ofRaw : party.raws family.current = side)
    (ofUser : party.ids family.user = side) :
    party.Follows side book
      { book with sessions := book.sessions.issue id family }
      { party.view book with
        sessions := (party.view book).sessions.issue id family } where
  divides :=
    { divides with
      issued := forall_entry_update divides.issued (ofRaw.trans ofId.symm)
      owner := forall_entry_update divides.owner (ofId.trans ofUser.symm)
      current := forall_entry_update divides.current (ofId.trans ofRaw.symm) }
  hidden := by
    rintro rfl
    simp only [view, viewLedger, Ledger.issue, hide_update_hidden ofId,
      hide_update_hidden ofRaw]
  shown := by
    rintro rfl
    simp only [view, viewLedger, Ledger.issue, hide_update_shown ofId,
      hide_update_shown ofRaw]

/-- The alive flags do not matter to what is on which side. -/
theorem Divides.setAlive (divides : party.Divides book)
    (alive : String → Family → Bool) :
    party.Divides
      { book with sessions := book.sessions.setAlive alive } :=
  { divides with
    owner := by
      intro id family known
      obtain ⟨old, oldKnown, rfl⟩ := Option.map_eq_some_iff.mp known
      exact divides.owner id old oldKnown
    current := by
      intro id family known
      obtain ⟨old, oldKnown, rfl⟩ := Option.map_eq_some_iff.mp known
      exact divides.current id old oldKnown }

theorem Divides.kill (divides : party.Divides book) {id : String}
    (ofId : party.families id = side) :
    party.Follows side book
      { book with sessions := book.sessions.kill id }
      { party.view book with
        sessions := (party.view book).sessions.kill id } where
  divides := by
    rw [Ledger.kill_eq_setAlive]
    exact divides.setAlive _
  hidden := by
    rintro rfl
    simp only [view, viewLedger, Ledger.kill, hide_update_hidden ofId]
  shown := by
    rintro rfl
    simp only [view, viewLedger, Ledger.kill, hide_update_shown ofId,
      hide_of_shown ofId]

theorem Divides.killUser (divides : party.Divides book) {user : String}
    (ofUser : party.ids user = side) :
    party.Follows side book
      { book with sessions := book.sessions.killUser user }
      { party.view book with
        sessions := (party.view book).sessions.killUser user } where
  divides := by
    rw [Ledger.killUser_eq_setAlive]
    exact divides.setAlive _
  hidden := by
    rintro rfl
    simp only [view, viewLedger, Ledger.killUser, Book.mk.injEq,
      Ledger.mk.injEq, true_and, and_true]
    funext id
    cases known : book.sessions.families id with
    | none => simp only [hide, known, Option.map_none]
    | some family =>
        by_cases same : family.user = user
        · have own : party.families id = true := by
            rw [divides.owner id family known, same, ofUser]
          rw [hide_of_hidden own, hide_of_hidden own]
        · simp only [hide, known, Option.map_some, if_neg same]
  shown := by
    rintro rfl
    simp only [view, viewLedger, Ledger.killUser, hide_map]

/-- A token of the other side belongs to the same family in the view. -/
theorem Divides.familyOf_view (divides : party.Divides book) {raw : String}
    (ofRaw : party.raws raw = false) :
    (party.view book).sessions.familyOf raw = book.sessions.familyOf raw := by
  simp only [Ledger.familyOf, view, viewLedger, hide_of_shown ofRaw]
  cases issued : book.sessions.issuedTo raw with
  | none => rfl
  | some id =>
      have ofId : party.families id = false :=
        (divides.issued raw id issued).symm.trans ofRaw
      rw [Option.bind_some, Option.bind_some, hide_of_shown ofId]

/-- A family that a token belongs to is on the token's side. -/
theorem Divides.family_sided (divides : party.Divides book) {raw id : String}
    {family : Family} (ofRaw : party.raws raw = side)
    (found : book.sessions.familyOf raw = some (id, family)) :
    party.families id = side ∧ party.ids family.user = side := by
  obtain ⟨issued, known⟩ :=
    SessionRefinement.Ledger.familyOf_eq_some_iff.mp found
  have ofId := (divides.issued raw id issued).symm.trans ofRaw
  exact ⟨ofId, (divides.owner id family known).symm.trans ofId⟩

end Changes

/-! ## The calls on the view -/

/--
A call from a side: it leaves the view if it is from the party's side, and is
answered on the view as on the book if it is from the other one.
-/
structure Answers (party : Party) (side : Bool) (before : Book)
    (onBook onView : Except Failure AccountsReply × Book) : Prop where
  divides : party.Divides onBook.2
  hidden : side = true → party.view onBook.2 = party.view before
  shown : side = false → onView = (onBook.1, party.view onBook.2)

section Calls

variable {deps : AccountsDeps} {party : Party} {side : Bool} {book : Book}
  {now : Time}

theorem Divides.refl (divides : party.Divides book) :
    party.Follows side book book (party.view book) where
  divides := divides
  hidden := fun _ => rfl
  shown := fun _ => rfl

theorem Follows.trans {before middle after onMiddle : Book}
    (first : party.Follows side before middle onMiddle)
    (next : Book → Book)
    (second : party.Follows side middle after (next (party.view middle))) :
    party.Follows side before after (next onMiddle) where
  divides := second.divides
  hidden := fun own => (second.hidden own).trans (first.hidden own)
  shown := fun other => by rw [second.shown other, first.shown other]

theorem Follows.answers {after onView : Book}
    {answer : Except Failure AccountsReply}
    {viewed : Except Failure AccountsReply × Book}
    (follows : party.Follows side book after onView)
    (ofView : side = false → viewed = (answer, onView)) :
    party.Answers side book (answer, after) viewed where
  divides := follows.divides
  hidden := follows.hidden
  shown := fun other => by rw [ofView other, follows.shown other]

/-- Which texts are refused does not depend on the book. -/
theorem Divides.refusing (divides : party.Divides book)
    {texts : List (Option String)}
    {onBook onView : Except Failure AccountsReply × Book}
    (answers : party.Answers side book onBook onView) :
    party.Answers side book (book.refusing texts onBook)
      ((party.view book).refusing texts onView) := by
  by_cases stores : Storable texts
  · rw [Book.refusing_of_storable stores, Book.refusing_of_storable stores]
    exact answers
  · rw [Book.refusing_of_not stores, Book.refusing_of_not stores]
    exact divides.refl.answers fun _ => rfl

theorem Divides.signIn (divides : party.Divides book) {draws : SessionDraws}
    {id : String} (account : Account) (ofId : party.ids id = side)
    (ofFamily : party.families draws.familyId = side)
    (ofRaw : party.raws draws.raw = side) :
    party.Follows side book (book.signIn deps draws id account now).2
      ((party.view book).signIn deps draws id account now).2 :=
  divides.issue ofFamily ofRaw ofId

theorem view_registered {email : String}
    (other : party.emails email = false) :
    (party.view book).registered email = book.registered email :=
  hide_of_shown other

theorem view_accounts {id : String} (other : party.ids id = false) :
    (party.view book).accounts id = book.accounts id :=
  hide_of_shown other

theorem Divides.find_sided (divides : party.Divides book) {email id : String}
    {account : Account} (ofEmail : party.emails email = side)
    (found : book.find email = some (id, account)) :
    party.ids id = side ∧ book.accounts id = some account := by
  simp only [Book.find, Option.bind_eq_some_iff, Option.map_eq_some_iff,
    Prod.mk.injEq] at found
  obtain ⟨id, known, account, knownAccount, rfl, rfl⟩ := found
  exact ⟨(divides.registered email id known).symm.trans ofEmail, knownAccount⟩

/-- An email of the other side finds the same account in the view. -/
theorem Divides.find_view (divides : party.Divides book) {email : String}
    (other : party.emails email = false) :
    (party.view book).find email = book.find email := by
  rw [Book.find, Book.find, view_registered other]
  cases known : book.registered email with
  | none => rfl
  | some id =>
      have ofId := (divides.registered email id known).symm.trans other
      rw [Option.bind_some, Option.bind_some, view_accounts ofId]

theorem find_view_hidden {email : String} (own : party.emails email = true) :
    (party.view book).find email = none := by
  rw [Book.find, view]
  exact congrArg (Option.bind · _) (hide_of_hidden own)

/-! ### Registration and login -/

theorem Divides.register (divides : party.Divides book)
    {input : RegisterUser.Input} {draws : RegisterUser.Draws}
    (sided : party.Sided deps.toAccountDeps side (.register input draws)) :
    party.Answers side book (book.register deps input draws now)
      ((party.view book).register deps input draws now) := by
  obtain ⟨ofEmail, ofId, ofFamily, ofRaw, ofLink, ofPassword⟩ := sided
  unfold Book.register
  apply divides.refusing
  cases known : book.registered (deps.normalizeEmail input.email) with
  | some id =>
      refine divides.refl.answers fun other => ?_
      rw [view_registered (ofEmail.trans other), known]
  | none =>
      by_cases refused : ¬ Storable [some input.displayName]
      · dsimp only
        rw [Book.refusing_of_not refused]
        refine divides.refl.answers fun other => ?_
        rw [view_registered (ofEmail.trans other), known]
        exact Book.refusing_of_not refused _ _
      have stores := not_not.mp refused
      let account := newAccount deps.toAccountDeps input
      have entered :
          party.Follows side book (book.enter draws.userId account) _ :=
        divides.enter ofEmail ofId ofPassword
      have signedIn :
          party.Follows side (book.enter draws.userId account)
            ((book.enter draws.userId account).signIn deps draws.session
              draws.userId account now).2 _ :=
        entered.divides.signIn account ofId ofFamily ofRaw
      have granted :
          party.Follows side _
            (((book.enter draws.userId account).signIn deps draws.session
              draws.userId account now).2.grantVerification deps draws.mail
                draws.userId account.email) _ :=
        signedIn.divides.grantVerification ofLink ofId ofEmail
      have whole :=
        (entered.trans
          (fun book =>
            (book.signIn deps draws.session draws.userId account now).2)
          signedIn).trans
          (fun book =>
            book.grantVerification deps draws.mail draws.userId account.email)
          granted
      dsimp only
      rw [Book.refusing_of_storable stores]
      refine whole.answers fun other => ?_
      rw [view_registered (ofEmail.trans other), known]
      exact Book.refusing_of_storable stores _ _

theorem Divides.login (divides : party.Divides book) {input : LoginUser.Input}
    {draws : SessionDraws}
    (sided : party.Sided deps.toAccountDeps side (.login input draws)) :
    party.Answers side book (book.login deps input draws now)
      ((party.view book).login deps input draws now) := by
  obtain ⟨ofEmail, ofFamily, ofRaw⟩ := sided
  have ofView (other : side = false) :
      (party.view book).find (deps.normalizeEmail input.email) =
        book.find (deps.normalizeEmail input.email) :=
    divides.find_view (ofEmail.trans other)
  unfold Book.login
  apply divides.refusing
  cases found : book.find (deps.normalizeEmail input.email) with
  | none =>
      refine divides.refl.answers fun other => ?_
      rw [ofView other, found]
  | some known =>
      rcases known with ⟨id, account⟩
      obtain ⟨ofId, -⟩ := divides.find_sided ofEmail found
      dsimp only
      by_cases right : account.password = input.password
      · rw [if_pos right]
        refine (divides.signIn account ofId ofFamily ofRaw).answers
          fun other => ?_
        simp only [ofView other, found, if_pos right]
        rfl
      · rw [if_neg right]
        refine divides.refl.answers fun other => ?_
        simp only [ofView other, found, if_neg right]

/-! ### Sessions -/

theorem Divides.refresh (divides : party.Divides book) {rawToken : String}
    {sessionMeta : Option SessionMeta} {draws : SessionDraws}
    (sided : party.Sided deps.toAccountDeps side
      (.refresh rawToken sessionMeta draws)) :
    party.Answers side book
      (book.step deps (.refresh rawToken sessionMeta draws, now))
      ((party.view book).step deps
        (.refresh rawToken sessionMeta draws, now)) := by
  obtain ⟨ofRaw, ofNew⟩ := sided
  have ofView (other : side = false) :
      (party.view book).sessions.familyOf rawToken =
        book.sessions.familyOf rawToken :=
    divides.familyOf_view (ofRaw.trans other)
  simp only [Book.step, Book.withSessions, Ledger.step, Ledger.refresh]
  cases found : book.sessions.familyOf rawToken with
  | none =>
      refine divides.refl.answers fun other => ?_
      rw [ofView other, found]
  | some owned =>
      rcases owned with ⟨id, family⟩
      obtain ⟨ofId, ofUser⟩ := divides.family_sided ofRaw found
      dsimp only
      split_ifs with current alive expired
      · refine divides.refl.answers fun other => ?_
        simp only [ofView other, found, current, alive, expired, if_true]
      · have rotated :
            party.Follows side book
              { book with
                sessions :=
                  book.sessions.issue id
                    { family with
                      current := draws.raw
                      expiresAt := deps.expiry draws.now } } _ :=
          divides.issue ofId ofNew ofUser
        refine rotated.answers fun other => ?_
        simp only [ofView other, found, current, alive, expired, if_true,
          if_false]
      · refine divides.refl.answers fun other => ?_
        simp only [ofView other, found, current, alive, if_true,
          Bool.false_eq_true, if_false]
      · refine (divides.kill ofId).answers fun other => ?_
        simp only [ofView other, found, current, if_false]

theorem Divides.logout (divides : party.Divides book) {rawToken : String}
    (ofRaw : party.raws rawToken = side) :
    party.Answers side book (book.step deps (.logout rawToken, now))
      ((party.view book).step deps (.logout rawToken, now)) := by
  have ofView (other : side = false) :
      (party.view book).sessions.familyOf rawToken =
        book.sessions.familyOf rawToken :=
    divides.familyOf_view (ofRaw.trans other)
  simp only [Book.step, Book.withSessions, Ledger.step, Ledger.revoke]
  cases found : book.sessions.familyOf rawToken with
  | none =>
      refine divides.refl.answers fun other => ?_
      rw [ofView other, found]
  | some owned =>
      rcases owned with ⟨id, family⟩
      obtain ⟨ofId, -⟩ := divides.family_sided ofRaw found
      dsimp only
      split_ifs with current
      · refine (divides.kill ofId).answers fun other => ?_
        simp only [ofView other, found, current, if_true]
      · refine divides.refl.answers fun other => ?_
        simp only [ofView other, found, current, if_false]

/-! ### The profile -/

theorem Divides.me (divides : party.Divides book) {id : String}
    (ofId : party.ids id = side) :
    party.Answers side book (book.me id, book)
      ((party.view book).me id, party.view book) := by
  refine divides.refl.answers fun other => ?_
  rw [Book.me, Book.me, view_accounts (ofId.trans other)]

theorem Divides.updateProfile (divides : party.Divides book) {id : String}
    {input : UpdateProfile.Input} (ofId : party.ids id = side) :
    party.Answers side book (book.updateProfile deps id input)
      ((party.view book).updateProfile deps id input) := by
  have ofView (other : side = false) :
      (party.view book).accounts id = book.accounts id :=
    view_accounts (ofId.trans other)
  unfold Book.updateProfile
  split_ifs with nothing
  · exact divides.refl.answers fun _ => rfl
  · apply divides.refusing
    cases known : book.accounts id with
    | none =>
        refine divides.refl.answers fun other => ?_
        rw [ofView other, known]
    | some account =>
        have ofEmail := (divides.email id account known).trans ofId
        have revised :
            party.Follows side book (book.revise id (account.patched input))
              _ :=
          divides.revise ofEmail ofId fun own =>
            divides.password id account known (ofId.trans own)
        refine revised.answers fun other => ?_
        rw [ofView other, known]

/-! ### Links -/

theorem Divides.requestEmailVerification (divides : party.Divides book)
    {id : String} {draws : EmailDraws} (ofId : party.ids id = side)
    (ofLink : party.links draws.raw = side) :
    party.Answers side book
      (.ok .done, book.requestEmailVerification deps id draws)
      (.ok .done,
        (party.view book).requestEmailVerification deps id draws) := by
  have ofView (other : side = false) :
      (party.view book).accounts id = book.accounts id :=
    view_accounts (ofId.trans other)
  rw [Book.requestEmailVerification]
  cases known : book.accounts id with
  | none =>
      refine divides.refl.answers fun other => ?_
      rw [Book.requestEmailVerification, ofView other, known]
  | some account =>
      have ofEmail := (divides.email id account known).trans ofId
      dsimp only
      split_ifs with unverified
      · refine (divides.grantVerification ofLink ofId ofEmail).answers
          fun other => ?_
        simp only [Book.requestEmailVerification, ofView other, known,
          unverified, if_true]
      · refine divides.refl.answers fun other => ?_
        simp only [Book.requestEmailVerification, ofView other, known,
          unverified, if_false]

theorem Divides.requestPasswordReset (divides : party.Divides book)
    {email : String} {draws : EmailDraws}
    (ofEmail : party.emails (deps.normalizeEmail email) = side)
    (ofLink : party.links draws.raw = side) :
    party.Answers side book
      (book.requestPasswordReset deps email draws)
      ((party.view book).requestPasswordReset deps email draws) := by
  have ofView (other : side = false) :
      (party.view book).find (deps.normalizeEmail email) =
        book.find (deps.normalizeEmail email) :=
    divides.find_view (ofEmail.trans other)
  unfold Book.requestPasswordReset
  apply divides.refusing
  cases found : book.find (deps.normalizeEmail email) with
  | none =>
      refine divides.refl.answers fun other => ?_
      rw [ofView other, found]
  | some known =>
      rcases known with ⟨id, account⟩
      obtain ⟨ofId, known⟩ := divides.find_sided ofEmail found
      have ofAddress := (divides.email id account known).trans ofId
      refine (divides.grantReset ofLink ofId ofAddress).answers
        fun other => ?_
      rw [ofView other, found]

theorem Divides.confirmEmailVerification (divides : party.Divides book)
    {raw : String} {verifiedAt : Time} (ofRaw : party.links raw = side) :
    party.Answers side book
      (book.confirmEmailVerification raw verifiedAt now)
      ((party.view book).confirmEmailVerification raw verifiedAt now) := by
  rw [Book.confirmEmailVerification]
  cases redeemed : book.redeem raw .verify now with
  | none =>
      refine divides.refl.answers fun other => ?_
      rw [Book.confirmEmailVerification, redeem_view (ofRaw.trans other),
        redeemed]
      rfl
  | some found =>
      rcases found with ⟨id, after⟩
      obtain ⟨ofId, used⟩ := divides.redeem ofRaw redeemed
      have ofView (other : side = false) :
          (party.view after).accounts id = after.accounts id :=
        view_accounts (ofId.trans other)
      dsimp only
      cases known : after.accounts id with
      | none =>
          refine used.answers fun other => ?_
          rw [Book.confirmEmailVerification, redeem_view (ofRaw.trans other),
            redeemed]
          simp only [Option.map_some, ofView other, known]
      | some account =>
          have ofEmail := (used.divides.email id account known).trans ofId
          have verified :
              party.Follows side after
                (after.revise id
                  { account with verifiedAt := some verifiedAt }) _ :=
            used.divides.revise ofEmail ofId fun own =>
              used.divides.password id account known (ofId.trans own)
          refine (used.trans (fun book => book.revise id
            { account with verifiedAt := some verifiedAt })
            verified).answers fun other => ?_
          rw [Book.confirmEmailVerification, redeem_view (ofRaw.trans other),
            redeemed]
          simp only [Option.map_some, ofView other, known]

theorem Divides.confirmPasswordReset (divides : party.Divides book)
    {raw newPassword : String} (ofRaw : party.links raw = side)
    (ofPassword : side = true → party.passwords newPassword = true) :
    party.Answers side book (book.confirmPasswordReset raw newPassword now)
      ((party.view book).confirmPasswordReset raw newPassword now) := by
  rw [Book.confirmPasswordReset]
  cases redeemed : book.redeem raw .reset now with
  | none =>
      refine divides.refl.answers fun other => ?_
      rw [Book.confirmPasswordReset, redeem_view (ofRaw.trans other),
        redeemed]
      rfl
  | some found =>
      rcases found with ⟨id, after⟩
      obtain ⟨ofId, used⟩ := divides.redeem ofRaw redeemed
      have ofView (other : side = false) :
          (party.view after).accounts id = after.accounts id :=
        view_accounts (ofId.trans other)
      dsimp only
      cases known : after.accounts id with
      | none =>
          refine used.answers fun other => ?_
          rw [Book.confirmPasswordReset, redeem_view (ofRaw.trans other),
            redeemed]
          simp only [Option.map_some, ofView other, known]
      | some account =>
          have ofEmail := (used.divides.email id account known).trans ofId
          have reset :
              party.Follows side after
                (after.revise id { account with password := newPassword }) _ :=
            used.divides.revise ofEmail ofId ofPassword
          have ended := reset.divides.killUser ofId
          refine ((used.trans (fun book => book.revise id
            { account with password := newPassword }) reset).trans
            (fun book => { book with sessions := book.sessions.killUser id })
            ended).answers fun other => ?_
          rw [Book.confirmPasswordReset, redeem_view (ofRaw.trans other),
            redeemed]
          simp only [Option.map_some, ofView other, known]

/-- A call from a side, whichever it is. -/
theorem Divides.step (divides : party.Divides book)
    {call : AccountsCall × Time}
    (sided : party.Sided deps.toAccountDeps side call.1) :
    party.Answers side book (book.step deps call)
      ((party.view book).step deps call) := by
  rcases call with ⟨call, now⟩
  cases call with
  | register input draws => exact divides.register sided
  | login input draws => exact divides.login sided
  | refresh rawToken sessionMeta draws => exact divides.refresh sided
  | logout rawToken => exact divides.logout sided
  | me userId => exact divides.me sided
  | updateProfile userId input => exact divides.updateProfile sided
  | requestEmailVerification userId draws =>
      exact divides.requestEmailVerification sided.1 sided.2
  | confirmEmailVerification rawToken verifiedAt =>
      exact divides.confirmEmailVerification sided
  | requestPasswordReset email draws =>
      exact divides.requestPasswordReset sided.1 sided.2
  | confirmPasswordReset rawToken newPassword salt =>
      exact divides.confirmPasswordReset sided.1 sided.2

/-! ### Knocks -/

/-- A knock is answered as if the email were not registered. -/
theorem Divides.knock (divides : party.Divides book)
    {call : AccountsCall × Time}
    (knocks : party.Knocks deps.toAccountDeps call.1) :
    party.Answers false book (book.step deps call)
      ((party.view book).step deps call) := by
  rcases call with ⟨call, now⟩
  cases call with
  | login input draws =>
      obtain ⟨ofEmail, ofPassword⟩ := knocks
      change party.Answers false book (book.login deps input draws now)
        ((party.view book).login deps input draws now)
      unfold Book.login
      apply divides.refusing
      rw [find_view_hidden ofEmail]
      cases found : book.find (deps.normalizeEmail input.email) with
      | none => exact divides.refl.answers fun _ => rfl
      | some known =>
          rcases known with ⟨id, account⟩
          obtain ⟨ofId, known⟩ := divides.find_sided ofEmail found
          have wrong : account.password ≠ input.password := by
            intro right
            have own := divides.password id account known ofId
            rw [right, ofPassword] at own
            exact Bool.noConfusion own
          dsimp only
          rw [if_neg wrong]
          exact divides.refl.answers fun _ => rfl
  | requestPasswordReset email draws =>
      obtain ⟨ofEmail, ofLink⟩ := knocks
      change party.Answers false book
        (book.requestPasswordReset deps email draws)
        ((party.view book).requestPasswordReset deps email draws)
      unfold Book.requestPasswordReset
      apply divides.refusing
      rw [find_view_hidden ofEmail]
      cases found : book.find (deps.normalizeEmail email) with
      | none => exact divides.refl.answers fun _ => rfl
      | some known =>
          rcases known with ⟨id, account⟩
          obtain ⟨ofId, known⟩ := divides.find_sided ofEmail found
          -- the mail goes to the party
          have mailed : party.Follows true book
              (book.grantReset deps draws id account.email) _ :=
            divides.grantReset ofLink ofId
              ((divides.email id account known).trans ofId)
          refine ⟨mailed.divides, fun own => Bool.noConfusion own,
            fun _ => ?_⟩
          exact congrArg _ (mailed.hidden rfl).symm
  | _ => exact absurd knocks id

/-- A call is purged if it is the party's, and kept if it is from outside. -/
def Separates (deps : AccountDeps) (party : Party)
    (keep : AccountsCall × Time → Bool) (call : AccountsCall × Time) : Prop :=
  if keep call then party.Sided deps false call.1 ∨ party.Knocks deps call.1
  else party.Sided deps true call.1

/-- The view unwinds the calls of the party. -/
theorem unwinds (deps : AccountsDeps) (party : Party)
    (keep : AccountsCall × Time → Bool) :
    (Book.machine deps).Unwinds keep
      (party.Separates deps.toAccountDeps keep) party.Divides party.view where
  preserved book call divides separates := by
    rw [Separates] at separates
    split_ifs at separates with kept
    · rcases separates with sided | knocks
      · exact (divides.step sided).divides
      · exact (divides.knock knocks).divides
    · exact (divides.step separates).divides
  purged book call divides separates purges := by
    rw [Separates, purges, if_neg Bool.false_ne_true] at separates
    exact (divides.step separates).hidden rfl
  kept book call divides separates keeps := by
    rw [Separates, keeps, if_pos rfl] at separates
    rcases separates with sided | knocks
    · exact (divides.step sided).shown rfl
    · exact (divides.knock knocks).shown rfl

end Calls

/-- Everybody but the party, whose passwords do not matter. -/
def others (party : Party) : Party where
  emails := fun email => !party.emails email
  ids := fun id => !party.ids id
  families := fun id => !party.families id
  raws := fun raw => !party.raws raw
  links := fun raw => !party.links raw
  passwords := fun _ => true

theorem sided_others {deps : AccountDeps} {party : Party} {side : Bool}
    {call : AccountsCall} (sided : party.Sided deps side call) :
    party.others.Sided deps (!side) call := by
  cases call <;> simp_all [Sided, others]

end Party

/-! ## Whole runs -/

section WholeRuns

variable {deps : AccountsDeps} {names : Set String} {party : Party}
  {keep : AccountsCall × Time → Bool} {calls : List (AccountsCall × Time)}

/--
The calls of a party do not interfere with the others, whatever these are and
however often they knock: their answers are those of the run without the calls
of the party, where its emails are not registered, and the mails to other
addresses are all the mails of that run.
-/
theorem answers_without_party (noGrace : deps.graceWindowSec = 0)
    (fresh : Fresh deps names calls)
    (separates : ∀ call ∈ calls,
      party.Separates deps.toAccountDeps keep call) :
    answersTo keep calls ((accountsMachine deps).answers noAccounts calls) =
        (accountsMachine deps).answers noAccounts (calls.filter keep) ∧
      ((accountsMachine deps).reach noAccounts calls).outbox.filter
          (fun mail => !party.emails mail.address) =
        ((accountsMachine deps).reach noAccounts
          (calls.filter keep)).outbox := by
  obtain ⟨sameAnswers, sameView⟩ :=
    (party.unwinds deps keep).noninterference Party.divides_empty separates
  rw [party.view_empty] at sameAnswers sameView
  obtain ⟨answers, outbox, -⟩ := accounts_refinement noGrace fresh
  obtain ⟨keptAnswers, keptOutbox, -⟩ :=
    accounts_refinement noGrace (fresh.sublist List.filter_sublist)
  rw [answers, outbox, keptAnswers, keptOutbox, sameAnswers, sameView]
  exact ⟨rfl, rfl⟩

/--
Nobody else interferes with a party: its calls are answered as in a run in which
it is alone.
-/
theorem answers_alone (noGrace : deps.graceWindowSec = 0)
    (fresh : Fresh deps names calls)
    (sided : ∀ call ∈ calls,
      party.Sided deps.toAccountDeps (keep call) call.1) :
    answersTo keep calls ((accountsMachine deps).answers noAccounts calls) =
      (accountsMachine deps).answers noAccounts (calls.filter keep) := by
  have separates : ∀ call ∈ calls,
      party.others.Separates deps.toAccountDeps keep call := by
    intro call member
    have other := Party.sided_others (sided call member)
    rw [Party.Separates]
    cases keeps : keep call with
    | false =>
        rw [keeps] at other
        rw [if_neg Bool.false_ne_true]
        exact other
    | true =>
        rw [keeps] at other
        rw [if_pos rfl]
        exact .inl other
  exact (answers_without_party noGrace fresh separates).1

end WholeRuns

/-! ### Sample runs -/

/-- Ana, as far as the sample runs name what is hers. -/
def ana : Party where
  emails := fun email => email == "ana@example.com"
  ids := fun id => id == "user-0"
  families := fun id => id == "family-0"
  raws := fun raw => raw == "raw-0"
  links := fun raw => raw == "link-1" || raw == "link-3"
  passwords := fun password => password == "first password"

def sampleRegistration (name password email number link : String) :
    AccountsCall :=
  .register
    { email := email, password := password, displayName := name
      userAgent := none, ip := none }
    { salt := "$salt-1$", userId := "user-" ++ number
      session := sampleDraws 0 number, mail := sampleMail link }

/--
Ana registers and looks at herself; Bob registers, knocks on her email and looks
at himself.
-/
def visit : List (AccountsCall × Time) :=
  [(sampleRegistration "Ana" "first password" "ana@example.com" "0" "1", 0),
    (.me "user-0", 0),
    (sampleRegistration "Bob" "bob's password" "bob@example.com" "1" "2", 1),
    (.login (sampleLogin "a guess") (sampleDraws 2 "2"), 2),
    (.requestPasswordReset "ana@example.com" (sampleMail "3"), 3),
    (.me "user-1", 4)]

/-- The calls of Bob are those after Ana's. -/
def ofBob (call : AccountsCall × Time) : Bool := decide (0 < call.2)

theorem visit_fresh :
    Fresh AccountRefinement.sampleDeps
      { raw | raw ∈ along hashedLinks visit } visit where
  sessionIds := by decide
  sessionRaws := by decide
  userIds := by decide
  linkIds := by decide
  linkRaws := by decide
  refreshHash := by
    have injective : ∀ raw ∈ along hashedRaws visit,
        ∀ other ∈ along hashedRaws visit,
          AccountRefinement.sampleDeps.hashRefresh raw =
              AccountRefinement.sampleDeps.hashRefresh other →
            raw = other := by
      decide
    exact fun raw member other otherMember =>
      injective raw member other otherMember
  named := fun _ member => member
  linkHash := by
    have injective : ∀ raw ∈ along hashedLinks visit,
        ∀ other ∈ along hashedLinks visit,
          AccountRefinement.sampleDeps.sha256Sync raw =
              AccountRefinement.sampleDeps.sha256Sync other →
            raw = other := by
      decide
    exact fun raw member other otherMember =>
      injective raw member other otherMember
  verify := by decide

theorem visit_separates : ∀ call ∈ visit,
    ana.Separates AccountRefinement.sampleDeps.toAccountDeps ofBob call := by
  simp [visit, ofBob, Party.Separates, Party.Sided, Party.Knocks, ana,
    sampleRegistration, sampleLogin, sampleMail, sampleDraws,
    AccountDeps.normalizeEmail, AccountRefinement.sampleDeps]

theorem answers_without_party_visit :
    answersTo ofBob visit
        ((accountsMachine AccountRefinement.sampleDeps).answers noAccounts
          visit) =
      (accountsMachine AccountRefinement.sampleDeps).answers noAccounts
        (visit.filter ofBob) :=
  (answers_without_party rfl visit_fresh visit_separates).1

/-- The visit up to the registration of Bob. -/
theorem answers_alone_visit :
    answersTo (fun call => !ofBob call) (visit.take 3)
        ((accountsMachine AccountRefinement.sampleDeps).answers noAccounts
          (visit.take 3)) =
      (accountsMachine AccountRefinement.sampleDeps).answers noAccounts
        ((visit.take 3).filter fun call => !ofBob call) :=
  have sided : ∀ call ∈ visit.take 3,
      ana.Sided AccountRefinement.sampleDeps.toAccountDeps (!ofBob call)
        call.1 := by
    simp [visit, ofBob, Party.Sided, ana, sampleRegistration, sampleMail,
      sampleDraws, AccountDeps.normalizeEmail, AccountRefinement.sampleDeps]
  answers_alone rfl (visit_fresh.sublist (List.take_sublist 3 visit)) sided

end ChatBackend.Auth.AccountIsolation
