import ChatBackend.Auth.AccountRefinement
import ChatBackend.Auth.TokenChains
import ChatBackend.Transition.Since

/-!
# Sessions rest on the password in force

Whatever the grace window, a refresh token is accepted only if its family was
opened by a registration or a login of its user, with the password that is in
force now, and no reset of the password has been confirmed since.  Nothing is
assumed of the draws: ids and hashes that clash are rejected by the tables.
-/

namespace ChatBackend.Auth.SessionOrigins

open Effects
open Relational
open Transition
open ChatBackend.Auth.TokenStore
open ChatBackend.Auth.TokenStore.PgRefreshTokenRepository
open ChatBackend.Auth.Sessions
open ChatBackend.Auth.EmailTokens
open ChatBackend.Auth.Accounts
open ChatBackend.Auth.AccountRefinement
open ChatBackend.Auth.SessionRefinement (sessionMachine rotatedRows
  run_rotateToken run_execute)
open ChatBackend.Auth.TokenChains (Leaves leaves_step)

/-! ## Sign-ins and resets -/

/-- The state after a call. -/
def step (deps : AccountsDeps) (state : AccountsState)
    (label : AccountsCall × Time) : AccountsState :=
  ((accountsMachine deps).step state label).2

/-- The call gives the password behind the hash and opens the family. -/
def Vouches (deps : AccountsDeps) (familyId passwordHash : String) :
    AccountsCall → Prop
  | .register input draws => draws.session.familyId = familyId ∧
      deps.argon2id input.password draws.salt = passwordHash
  | .login input draws => draws.familyId = familyId ∧
      deps.argon2verify input.password passwordHash = true
  | _ => False

/-- The answer signs the user in. -/
def SignedIn (userId : String) :
    Except Failure AccountsReply → Prop
  | .ok (.signedIn registration) => registration.user.id = userId
  | _ => False

/-- A user signs in with the password behind the hash and opens the family. -/
structure SignsIn (deps : AccountsDeps)
    (userId familyId passwordHash : String) (state : AccountsState)
    (label : AccountsCall × Time) : Prop where
  vouches : Vouches deps familyId passwordHash label.1
  answer : SignedIn userId ((accountsMachine deps).step state label).1

/-- The reset token that a raw token redeems. -/
def redeemedReset (services : AuthServices) (tables : AuthState)
    (rawToken : String) (now : Time) : Option EmailToken :=
  first (fun token => token.tokenHash = services.sha256Sync rawToken ∧
      token.kind = .reset ∧ token.usedAt = none ∧ now < token.expiresAt)
    tables.emailTokens

/-- The call confirms a reset of the user's password. -/
structure Renews (deps : AccountsDeps) (userId : String)
    (state : AccountsState) (label : AccountsCall × Time) : Prop where
  confirms : ∃ rawToken newPassword salt,
    label.1 = .confirmPasswordReset rawToken newPassword salt ∧
      (redeemedReset deps.toAuthServices state.tables rawToken label.2).map
        EmailToken.userId = some userId
  answer : ((accountsMachine deps).step state label).1 = .ok .done

/-! ## What is kept of the tables -/

/-- What is known of a user with a session: its id, the family, the hash. -/
abbrev Origin := String → String → String → Prop

/--
Every unrevoked token has an origin.  A token and the one it was replaced by are
of one family.
-/
structure Backed (origin : Origin) (tables : AuthState) : Prop where
  userIds : UniqueKey (fun user : User => user.id) tables.users
  tokenIds : UniqueKey (fun row : RefreshToken => row.id) tables.refreshTokens
  family : ∀ row ∈ tables.refreshTokens, ∀ id ∈ row.replacedById,
    ∃ next ∈ tables.refreshTokens, next.id = id ∧
      next.familyId = row.familyId
  origin : ∀ row ∈ tables.refreshTokens, row.revokedAt = none →
    ∃ user ∈ tables.users, user.id = row.userId ∧
      origin user.id row.familyId user.passwordHash

section Tables

variable {origin weaker : Origin} {tables : AuthState}

theorem Backed.imp (backed : Backed origin tables)
    (implies : ∀ userId familyId passwordHash,
      origin userId familyId passwordHash →
        weaker userId familyId passwordHash) : Backed weaker tables :=
  { backed with
    origin := fun row stored unrevoked => by
      obtain ⟨user, known, same, holds⟩ := backed.origin row stored unrevoked
      exact ⟨user, known, same, implies _ _ _ holds⟩ }

/-- Users may be added and changed as long as they keep their passwords. -/
theorem Backed.withUsers (backed : Backed origin tables) {users : List User}
    (userIds : UniqueKey (fun user : User => user.id) users)
    (kept : ∀ user ∈ tables.users, ∃ later ∈ users,
      later.id = user.id ∧ later.passwordHash = user.passwordHash) :
    Backed origin { tables with users := users } :=
  { backed with
    userIds := userIds
    origin := fun row stored unrevoked => by
      obtain ⟨user, known, same, holds⟩ := backed.origin row stored unrevoked
      obtain ⟨later, there, sameId, sameHash⟩ := kept user known
      refine ⟨later, there, sameId.trans same, ?_⟩
      rwa [sameId, sameHash] }

theorem Backed.withEmailTokens (backed : Backed origin tables)
    (emailTokens : List EmailToken) :
    Backed origin { tables with emailTokens := emailTokens } :=
  { backed with }

/-- Tokens may be revoked. -/
theorem Backed.revokeWhere (backed : Backed origin tables)
    {condition : RefreshToken → Prop} [DecidablePred condition]
    {change : RefreshToken → RefreshToken}
    (keeps : ∀ row, (change row).id = row.id ∧
      (change row).familyId = row.familyId)
    (revoked : ∀ row, (change row).revokedAt ≠ none)
    (named : ∀ row ∈ tables.refreshTokens, condition row →
      ∀ id ∈ (change row).replacedById, ∃ next ∈ tables.refreshTokens,
        next.id = id ∧ next.familyId = row.familyId) :
    Backed origin { tables with
      refreshTokens := updateWhere condition change tables.refreshTokens } where
  userIds := backed.userIds
  tokenIds := backed.tokenIds.updateWhere fun row => (keeps row).1
  family := by
    have there (next : RefreshToken) (stored : next ∈ tables.refreshTokens) :
        ∃ later ∈ updateWhere condition change tables.refreshTokens,
          later.id = next.id ∧ later.familyId = next.familyId := by
      refine ⟨_, mem_updateWhere.mpr ⟨next, stored, rfl⟩, ?_⟩
      split
      · exact keeps next
      · exact ⟨rfl, rfl⟩
    intro row stored id replaced
    obtain ⟨old, oldStored, rfl⟩ := mem_updateWhere.mp stored
    have next : ∃ next ∈ tables.refreshTokens, next.id = id ∧
        next.familyId = old.familyId := by
      split at replaced
      · exact named old oldStored ‹_› id replaced
      · exact backed.family old oldStored id replaced
    obtain ⟨next, nextStored, sameId, sameFamily⟩ := next
    obtain ⟨later, laterStored, laterId, laterFamily⟩ := there next nextStored
    refine ⟨later, laterStored, laterId.trans sameId,
      (laterFamily.trans sameFamily).trans ?_⟩
    split
    · exact (keeps old).2.symm
    · rfl
  origin := by
    intro row stored unrevoked
    obtain ⟨old, oldStored, rfl⟩ := mem_updateWhere.mp stored
    split at unrevoked
    · exact absurd unrevoked (revoked old)
    · rename_i kept
      rw [if_neg kept]
      exact backed.origin old oldStored unrevoked

/-- A token with an origin may be inserted. -/
theorem Backed.insert (backed : Backed origin tables)
    {record : NewRefreshToken} {now : Time}
    (accepted :
      insertViolation tables.users tables.refreshTokens record = none)
    (last : record.replacedById = none)
    (vouched : ∃ user ∈ tables.users, user.id = record.userId ∧
      origin user.id record.familyId user.passwordHash) :
    Backed origin { tables with
      refreshTokens := tables.refreshTokens ++ [record.insertedAt now] } where
  userIds := backed.userIds
  tokenIds := Unclashing.append backed.tokenIds
    (insertViolation_eq_none_iff.mp accepted).1
  family := by
    intro row stored id replaced
    rcases List.mem_append.mp stored with old | new
    · obtain ⟨next, there, same⟩ := backed.family row old id replaced
      exact ⟨next, List.mem_append_left _ there, same⟩
    · rw [List.mem_singleton.mp new] at replaced
      exact absurd (last.symm.trans replaced) (Option.some_ne_none id).symm
  origin := by
    intro row stored unrevoked
    rcases List.mem_append.mp stored with old | new
    · exact backed.origin row old unrevoked
    · rw [List.mem_singleton.mp new]
      exact vouched

/-- The calls on sessions need an origin only for what they open. -/
theorem Backed.leaves (backed : Backed origin tables) {deps : SessionDeps}
    {now : Time} {call : SessionCall} {after : List RefreshToken}
    (leaves :
      Leaves deps tables.users tables.refreshTokens now call after)
    (opened : ∀ draws userId sessionMeta,
      call = .createSession draws userId sessionMeta →
        ∃ user ∈ tables.users, user.id = userId ∧
          origin user.id draws.familyId user.passwordHash) :
    Backed origin { tables with refreshTokens := after } := by
  have revoking {condition : RefreshToken → Prop} [DecidablePred condition] :
      Backed origin { tables with
        refreshTokens :=
          updateWhere condition (revoke now) tables.refreshTokens } :=
    backed.revokeWhere (fun _ => ⟨rfl, rfl⟩) (fun _ => Option.some_ne_none now)
      fun row stored _ id replaced => backed.family row stored id replaced
  cases leaves with
  | same => exact backed
  | opened draws userId sessionMeta accepted =>
      exact backed.insert accepted rfl (opened draws userId sessionMeta rfl)
  | rotated draws rawToken sessionMeta current member unrevoked accepted =>
      have inserted : Backed origin { tables with
          refreshTokens := tables.refreshTokens ++
            [(RefreshSession.successor deps draws current
              sessionMeta).insertedAt now] } :=
        backed.insert accepted rfl (backed.origin current member unrevoked)
      refine inserted.revokeWhere (fun _ => ⟨rfl, rfl⟩)
        (fun _ => Option.some_ne_none now) ?_
      rintro row stored sameId id ⟨⟩
      have same : row = current :=
        inserted.tokenIds.eq_of_key stored (List.mem_append_left _ member)
          sameId
      have sameFamily : current.familyId = row.familyId := by rw [same]
      exact ⟨_, List.mem_append_right _ (List.mem_singleton_self _), rfl,
        sameFamily⟩
  | refused draws rawToken sessionMeta familyId => exact revoking
  | ended rawToken token member unrevoked =>
      exact backed.revokeWhere (fun _ => ⟨rfl, rfl⟩)
        (fun _ => Option.some_ne_none now) fun _ _ _ id replaced =>
          absurd replaced (Option.not_mem_none id)
  | allEnded userId => exact revoking

end Tables

/-! ## What is kept by a call -/

/-- The operations that neither insert or mark a token nor set a password. -/
def Harmless : AccountsOp → Prop
  | .account (.auth (.refreshTokenRepo _)) => False
  | .account (.auth (.userRepo (.update _ patch))) => patch.passwordHash = none
  | .updateUser _ patch => patch.passwordHash = none
  | _ => True

section Calls

variable {deps : AccountsDeps} {origin : Origin} {now : Time}
  {state after : AccountsState}

theorem backed_patch (backed : Backed origin state.tables) {id : String}
    {patch : UserPatch} (noPassword : patch.passwordHash = none) :
    Backed origin { state.tables with
      users := updateWhere (fun user => user.id = id)
        (PgUserRepository.patchUser now patch) state.tables.users } := by
  refine backed.withUsers (backed.userIds.updateWhere fun _ => rfl) ?_
  intro user known
  refine ⟨_, mem_updateWhere.mpr ⟨user, known, rfl⟩, ?_⟩
  split
  · refine ⟨rfl, ?_⟩
    rw [PgUserRepository.patchUser, noPassword]
    rfl
  · exact ⟨rfl, rfl⟩

theorem backed_auth {op : AuthOp} (harmless : Harmless (.account (.auth op)))
    (backed : Backed origin state.tables) {answer : op.Answer}
    {tables : AuthState}
    (answered : authAdapter deps.toAuthServices op now state.tables =
      .ok (answer, tables)) : Backed origin tables := by
  cases op with
  | refreshTokenRepo op => exact harmless.elim
  | emailTokenRepo op =>
      cases op with
      | consume hash kind =>
          cases answered
          exact backed.withEmailTokens _
  | userRepo op =>
      cases op with
      | update id patch =>
          obtain ⟨-, user, -, -, rfl⟩ :=
            authAdapter_update_eq_ok_iff.mp answered
          exact backed_patch backed harmless
  | hashPassword plain salt =>
      cases answered
      exact backed
  | signAccess claims =>
      cases answered
      exact backed

theorem backed_account {op : AccountOp} (harmless : Harmless (.account op))
    (backed : Backed origin state.tables) {answer : op.Answer}
    {tables : AuthState}
    (answered : accountAdapter deps.toAuthServices op now state.tables =
      .ok (answer, tables)) : Backed origin tables := by
  cases op with
  | auth op => exact backed_auth harmless backed answered
  | insertEmailToken record =>
      simp only [accountAdapter] at answered
      split at answered
      · cases answered
      · cases answered
        exact backed.withEmailTokens _
  | createUser record =>
      simp only [accountAdapter] at answered
      split at answered
      · cases answered
      · rename_i accepted
        cases answered
        refine backed.withUsers (Unclashing.append backed.userIds
          (PgUserRepository.createViolation_eq_none_iff.mp accepted).2.1) ?_
        exact fun user known =>
          ⟨user, List.mem_append_left _ known, rfl, rfl⟩
  | findUserById id =>
      cases answered
      exact backed
  | findUserByEmail email =>
      obtain ⟨-, -, rfl⟩ :=
        accountAdapter_findUserByEmail_eq_ok_iff.mp answered
      exact backed
  | sendVerification toAddress link =>
      cases answered
      exact backed
  | sendPasswordReset toAddress link =>
      cases answered
      exact backed

theorem backed_mailing {op : AccountOp} (harmless : Harmless (.account op))
    (backed : Backed origin state.tables) {answer : op.Answer}
    (answered : mailingAdapter deps.toAuthServices op now state =
      .ok (answer, after)) : Backed origin after.tables := by
  unfold mailingAdapter at answered
  cases attempt : accountAdapter deps.toAuthServices op now state.tables with
  | error error =>
      rw [attempt] at answered
      cases answered
  | ok result =>
      rw [attempt] at answered
      cases answered
      exact backed_account harmless backed attempt

theorem backed_op {op : AccountsOp} (harmless : Harmless op)
    (backed : Backed origin state.tables) {answer : op.Answer}
    (answered : accountsAdapter deps op now state = .ok (answer, after)) :
    Backed origin after.tables := by
  cases op with
  | account op => exact backed_mailing harmless backed answered
  | verifyPassword plain passwordHash =>
      cases answered
      exact backed
  | updateUser id patch =>
      simp only [accountsAdapter] at answered
      split at answered
      · cases answered
      · have sameCondition :
            Harmless (.account (.auth (.userRepo (.update id patch)))) :=
          harmless
        exact backed_mailing sameCondition backed answered

/-- A program of harmless operations keeps the tables backed. -/
theorem backed_run {Result : Type} {program : AccountsProgram Result}
    (issues : program.Issues Harmless) (backed : Backed origin state.tables) :
    Backed origin
      (program.run (accountsAdapter deps) now state).2.tables := by
  have kept (op : AccountsOp) (state : AccountsState) (answer : op.Answer)
      (after : AccountsState) (harmless : Harmless op)
      (holds : Backed origin state.tables)
      (answered : accountsAdapter deps op now state = .ok (answer, after)) :
      Backed origin after.tables := backed_op harmless holds answered
  exact issues.run_preserves kept backed

/-! ### Calls that sign nobody in -/

theorem harmless_sendVerificationEmail {draws : EmailDraws}
    {userId email : String} :
    (account (RegisterUser.sendVerificationEmail deps.toAccountDeps draws userId
      email)).Issues Harmless := by
  refine Program.Issues.embed ?_
  exact ⟨trivial, fun _ => ⟨trivial, fun _ => trivial⟩⟩

theorem harmless_requestEmailVerification {userId : String}
    {draws : EmailDraws} :
    (account (RequestEmailVerification.execute deps.toAccountDeps userId
      draws)).Issues Harmless := by
  unfold RequestEmailVerification.execute
  refine Program.Issues.embed (Program.Issues.perform_bind trivial ?_)
  rintro (_ | user)
  · trivial
  · dsimp only
    cases user.emailVerifiedAt with
    | some _ => trivial
    | none => exact ⟨trivial, fun _ => ⟨trivial, fun _ => trivial⟩⟩

theorem harmless_requestPasswordReset {email : String} {draws : EmailDraws} :
    (account (RequestPasswordReset.execute deps.toAccountDeps email
      draws)).Issues Harmless := by
  refine Program.Issues.embed ⟨trivial, ?_⟩
  rintro (_ | user)
  · trivial
  · exact ⟨trivial, fun _ => ⟨trivial, fun _ => trivial⟩⟩

theorem harmless_confirmEmailVerification {rawToken : String}
    {verifiedAt : Time} :
    (account (auth (ConfirmEmailVerification.execute deps.toAuthServices
      verifiedAt rawToken))).Issues Harmless := by
  refine Program.Issues.embed (Program.Issues.embed ⟨trivial, ?_⟩)
  rintro (_ | token)
  · trivial
  · exact ⟨rfl, fun _ => trivial⟩

/-- The calls whose programs are harmless. -/
def Plain : AccountsCall → Prop
  | .me _ => True
  | .updateProfile _ _ => True
  | .requestEmailVerification _ _ => True
  | .requestPasswordReset _ _ => True
  | .confirmEmailVerification _ _ => True
  | _ => False

theorem harmless_of_plain {call : AccountsCall} (plain : Plain call) :
    (call.program deps).Issues Harmless := by
  cases call with
  | me userId =>
      refine Program.Issues.map ⟨trivial, ?_⟩
      rintro (_ | user) <;> trivial
  | updateProfile userId input =>
      exact Program.Issues.map ⟨rfl, fun _ => trivial⟩
  | requestEmailVerification userId draws =>
      exact harmless_requestEmailVerification.map
  | requestPasswordReset email draws =>
      exact harmless_requestPasswordReset.map
  | confirmEmailVerification rawToken now =>
      exact harmless_confirmEmailVerification.map
  | register input draws => exact plain.elim
  | login input draws => exact plain.elim
  | refresh rawToken sessionMeta draws => exact plain.elim
  | logout rawToken => exact plain.elim
  | confirmPasswordReset rawToken newPassword salt => exact plain.elim

theorem backed_plain {call : AccountsCall} (plain : Plain call)
    (backed : Backed origin state.tables) :
    Backed origin (step deps state (call, now)).tables := by
  have quiet : call.background deps = .done () := by
    cases call <;> first | rfl | exact plain.elim
  rw [step, step_eq_run quiet]
  exact backed_run (harmless_of_plain plain) backed

/-- What a call on sessions leaves of the tables and answers. -/
theorem step_session {call : AccountsCall} (sessionCall : SessionCall)
    {Result : Type} {program : AuthProgram Result}
    {reply : Result → AccountsReply} {sessionReply : Result → Option Session}
    (quiet : call.background deps = .done ())
    (isProgram : call.program deps = reply <$> account (auth program))
    (isSession : sessionCall.program deps.toSessionDeps =
      sessionReply <$> program) :
    (step deps state (call, now)).tables =
      ((sessionMachine deps.toSessionDeps).step state.tables
        (sessionCall, now)).2 := by
  rw [step, step_eq_run quiet, isProgram, Program.run_map, run_account,
    run_auth]
  dsimp only [sessionMachine]
  rw [isSession, Program.run_map]

theorem backed_session {call : AccountsCall} (sessionCall : SessionCall)
    (backed : Backed origin state.tables)
    (stepped : (step deps state (call, now)).tables =
      ((sessionMachine deps.toSessionDeps).step state.tables
        (sessionCall, now)).2)
    (opens : sessionCall.opensFor = none) :
    Backed origin (step deps state (call, now)).tables := by
  obtain ⟨users, leaves⟩ :=
    leaves_step deps.toSessionDeps state.tables sessionCall now
  rw [stepped]
  have kept : Backed origin { state.tables with
      refreshTokens := ((sessionMachine deps.toSessionDeps).step state.tables
        (sessionCall, now)).2.refreshTokens } := by
    refine backed.leaves leaves fun draws userId sessionMeta same => ?_
    rw [same] at opens
    cases opens
  exact
    { userIds := users ▸ kept.userIds
      tokenIds := kept.tokenIds
      family := kept.family
      origin := users ▸ kept.origin }

/-! ### Sign-ins -/

/-- The origins after an outcome: those of before and what has signed in. -/
def withSignIn (deps : AccountsDeps) (call : AccountsCall) (origin : Origin)
    (outcome : Except Failure AccountsReply) : Origin :=
  fun userId familyId passwordHash =>
    Vouches deps familyId passwordHash call ∧ SignedIn userId outcome ∨
      origin userId familyId passwordHash

theorem ensures_account {Result : Type} {program : AccountProgram Result}
    {post : Except Failure Result → AccountsState → Prop}
    (ensures : program.Ensures (mailingAdapter deps.toAuthServices) now state
      post) :
    (account program).Ensures (accountsAdapter deps) now state post := by
  rw [Program.Ensures, run_account]
  exact ensures

theorem ensures_createSession (backed : Backed origin state.tables)
    {user : User} (known : user ∈ state.tables.users) (draws : SessionDraws)
    (sessionMeta : Option SessionMeta) :
    (auth (createSession deps.toSessionDeps draws user.id
      sessionMeta)).Ensures (mailingAdapter deps.toAuthServices) now state
        fun outcome after => Backed (fun userId familyId passwordHash =>
          (∃ session, outcome = .ok session) ∧ userId = user.id ∧
              familyId = draws.familyId ∧ passwordHash = user.passwordHash ∨
            origin userId familyId passwordHash) after.tables := by
  rw [Program.Ensures, run_auth]
  cases accepted : insertViolation state.tables.users
      state.tables.refreshTokens
      (rootToken deps.toSessionDeps draws user.id sessionMeta) with
  | none =>
      rw [SessionRefinement.run_createSession accepted]
      refine (backed.imp fun _ _ _ => .inr).insert accepted rfl ?_
      exact ⟨user, known, rfl, .inl ⟨⟨_, rfl⟩, rfl, rfl, rfl⟩⟩
  | some cause =>
      rw [createSession, refreshTokenRepo.insert, Program.perform_bind,
        Program.run_call_error _ (authAdapter_insert_refused accepted)]
      exact backed.imp fun _ _ _ => .inr

theorem ensures_login (backed : Backed origin state.tables)
    (input : LoginUser.Input) (draws : SessionDraws) :
    ((AccountsCall.login input draws).program deps).Ensures
      (accountsAdapter deps) now state fun outcome after =>
        Backed (withSignIn deps (.login input draws) origin outcome)
          after.tables := by
  have refused (error : Failure) : Backed (withSignIn deps
      (.login input draws) origin (.error error)) state.tables :=
    backed.imp fun _ _ _ => .inr
  refine Program.Ensures.map ?_
  unfold LoginUser.execute
  refine Program.Ensures.call (fun error _ => refused error) ?_
  intro answer after answered
  obtain ⟨found, rfl⟩ := mailingAdapter_findUserByEmail_ok answered
  cases answer with
  | none => exact refused _
  | some user =>
      refine Program.Ensures.call_ok rfl ?_
      dsimp only [Program.bind]
      split
      · rename_i valid
        refine (ensures_account (ensures_createSession backed
          (mem_of_first found) draws
          (some ⟨input.userAgent, input.ip⟩))).bind ?_ ?_
        · intro error after holds
          refine holds.imp fun userId familyId passwordHash => ?_
          rintro (⟨⟨session, failed⟩, -⟩ | before)
          · cases failed
          · exact .inr before
        · intro session after holds
          refine holds.imp fun userId familyId passwordHash => ?_
          rintro (⟨-, rfl, rfl, rfl⟩ | before)
          · exact .inl ⟨⟨rfl, valid⟩, rfl⟩
          · exact .inr before
      · exact refused _

theorem created_user {record : NewUser} {user : User}
    (answered : mailingAdapter deps.toAuthServices (.createUser record) now
      state = .ok (user, after)) :
    user = record.insertedAt now ∧ user ∈ after.tables.users := by
  simp only [mailingAdapter, accountAdapter] at answered
  split at answered
  · cases answered
  · cases answered
    exact ⟨rfl, List.mem_append_right _ (List.mem_singleton_self _)⟩

theorem ensures_register (backed : Backed origin state.tables)
    (input : RegisterUser.Input) (draws : RegisterUser.Draws) :
    ((AccountsCall.register input draws).program deps).Ensures
      (accountsAdapter deps) now state fun outcome after =>
        Backed (withSignIn deps (.register input draws) origin outcome)
          after.tables := by
  refine Program.Ensures.map (ensures_account ?_)
  unfold RegisterUser.execute
  refine Program.Ensures.call
    (fun _ _ => backed.imp fun _ _ _ => .inr) ?_
  intro answer after answered
  obtain ⟨-, rfl⟩ := mailingAdapter_findUserByEmail_ok answered
  cases answer with
  | some user => exact backed.imp fun _ _ _ => .inr
  | none =>
      refine Program.Ensures.call_ok (mailingAdapter_auth rfl) ?_
      refine Program.Ensures.call ?_ ?_
      · exact fun _ _ => backed.imp fun _ _ _ => .inr
      · intro user created answered
        obtain ⟨rfl, known⟩ := created_user answered
        have harmless (record : NewUser) :
            Harmless (.account (.createUser record)) := trivial
        have kept := backed_mailing (harmless _) backed answered
        refine (ensures_createSession kept known draws.session
          (some ⟨input.userAgent, input.ip⟩)).bind ?_ ?_
        · intro error after holds
          refine holds.imp fun userId familyId passwordHash => ?_
          rintro (⟨⟨session, failed⟩, -⟩ | before)
          · cases failed
          · exact .inr before
        · intro session after holds
          refine holds.imp fun userId familyId passwordHash => ?_
          rintro (⟨-, rfl, rfl, rfl⟩ | before)
          · exact .inl ⟨⟨rfl, rfl⟩, rfl⟩
          · exact .inr before

/-! ### Resets -/

/-- A renewed password ends the sessions of its user and no others. -/
theorem Backed.renewed {tables : AuthState} (backed : Backed origin tables)
    (renewed : String) (patch : UserPatch) :
    Backed (fun userId familyId passwordHash =>
        origin userId familyId passwordHash ∧ renewed ≠ userId)
      { tables with
        users := updateWhere (fun user => user.id = renewed)
          (PgUserRepository.patchUser now patch) tables.users
        refreshTokens :=
          updateWhere
            (fun row => row.userId = renewed ∧ row.revokedAt = none)
            (revoke now) tables.refreshTokens } := by
  have revoked : Backed origin { tables with
      refreshTokens :=
        updateWhere (fun row => row.userId = renewed ∧ row.revokedAt = none)
          (revoke now) tables.refreshTokens } :=
    backed.revokeWhere (fun _ => ⟨rfl, rfl⟩) (fun _ => Option.some_ne_none now)
      fun row stored _ id replaced => backed.family row stored id replaced
  refine
    { userIds := backed.userIds.updateWhere fun _ => rfl
      tokenIds := revoked.tokenIds
      family := revoked.family
      origin := fun row stored unrevoked => ?_ }
  obtain ⟨old, oldStored, rfl⟩ := mem_updateWhere.mp stored
  split at unrevoked
  · exact absurd unrevoked (Option.some_ne_none now)
  · rename_i kept
    rw [if_neg kept]
    obtain ⟨user, known, same, holds⟩ :=
      backed.origin old oldStored unrevoked
    have other : user.id ≠ renewed := fun equal =>
      kept ⟨same.symm.trans equal, unrevoked⟩
    refine ⟨user, mem_updateWhere.mpr ⟨user, known, ?_⟩, same, holds,
      other.symm⟩
    rw [if_neg other]

theorem ensures_confirmPasswordReset {tables : AuthState}
    (backed : Backed origin tables) (rawToken newPassword salt : String) :
    (ConfirmPasswordReset.execute deps.toAuthServices salt rawToken
      newPassword).Ensures (authAdapter deps.toAuthServices) now tables
        fun outcome after => Backed (fun userId familyId passwordHash =>
          origin userId familyId passwordHash ∧
            ∀ reply, outcome = .ok reply →
              (redeemedReset deps.toAuthServices tables rawToken now).map
                EmailToken.userId ≠ some userId) after := by
  have failed (error : Failure) (renewed : Option String) {after : AuthState}
      (kept : Backed origin after) :
      Backed (fun userId familyId passwordHash =>
        origin userId familyId passwordHash ∧
          ∀ reply, (.error error : Except Failure Unit) = .ok reply →
            renewed ≠ some userId) after :=
    kept.imp fun _ _ _ holds => ⟨holds, fun _ ended => by cases ended⟩
  unfold ConfirmPasswordReset.execute
  have answered :
      authAdapter deps.toAuthServices
          (.emailTokenRepo (.consume (deps.sha256Sync rawToken) .reset)) now
          tables =
        .ok ((redeemedReset deps.toAuthServices tables rawToken now).map
            fun token => { token with usedAt := some now },
          consumed deps.toAuthServices rawToken .reset now tables) := rfl
  have kept : Backed origin
      (consumed deps.toAuthServices rawToken .reset now tables) :=
    backed.withEmailTokens _
  refine Program.Ensures.call_ok answered ?_
  cases found : redeemedReset deps.toAuthServices tables rawToken now with
  | none => exact failed _ none kept
  | some token =>
      refine Program.Ensures.call_ok rfl (Program.Ensures.call ?_ ?_)
      · exact fun error _ => failed error _ kept
      · intro user updated patched
        obtain ⟨-, user, -, -, rfl⟩ :=
          authAdapter_update_eq_ok_iff.mp patched
        refine (kept.renewed token.userId _).imp ?_
        rintro userId familyId passwordHash ⟨holds, apart⟩
        refine ⟨holds, fun _ _ same => apart ?_⟩
        exact Option.some.inj same

/-! ### Every call -/

theorem not_renews {userId : String} {label : AccountsCall × Time}
    (other : ∀ rawToken newPassword salt,
      label.1 ≠ .confirmPasswordReset rawToken newPassword salt) :
    ¬ Renews deps userId state label := by
  rintro ⟨⟨rawToken, newPassword, salt, same, -⟩, -⟩
  exact other rawToken newPassword salt same

/-- A call that signs in leaves the origins it vouches for. -/
theorem backed_signIn {call : AccountsCall}
    (ensures : (call.program deps).Ensures (accountsAdapter deps) now state
      fun outcome after =>
        Backed (withSignIn deps call origin outcome) after.tables)
    (background : (call.background deps).Issues Harmless) :
    Backed (withSignIn deps call origin
        ((accountsMachine deps).step state (call, now)).1)
      (step deps state (call, now)).tables := by
  unfold Program.Ensures at ensures
  simp only [step, accountsMachine]
  rcases ran : (call.program deps).run (accountsAdapter deps) now state with
    ⟨outcome, after⟩
  rw [ran] at ensures
  cases outcome with
  | error error => exact ensures
  | ok reply => exact backed_run background ensures

/-- A reset takes the origins of the user whose password it renews. -/
theorem backed_confirmPasswordReset (backed : Backed origin state.tables)
    (rawToken newPassword salt : String) :
    Backed (fun userId familyId passwordHash =>
        origin userId familyId passwordHash ∧
          ¬ Renews deps userId state
            (.confirmPasswordReset rawToken newPassword salt, now))
      (step deps state
        (.confirmPasswordReset rawToken newPassword salt, now)).tables := by
  have ensures : (ConfirmPasswordReset.execute deps.toAuthServices salt
      rawToken newPassword).Ensures (authAdapter deps.toAuthServices) now
        state.tables _ :=
    ensures_confirmPasswordReset backed rawToken newPassword salt
  unfold Program.Ensures at ensures
  have stepped : (accountsMachine deps).step state
      (.confirmPasswordReset rawToken newPassword salt, now) =
        (Except.map (fun _ => AccountsReply.done)
          ((ConfirmPasswordReset.execute deps.toAuthServices salt rawToken
            newPassword).run (authAdapter deps.toAuthServices) now
              state.tables).1,
          { state with
            tables := ((ConfirmPasswordReset.execute deps.toAuthServices
              salt rawToken newPassword).run
                (authAdapter deps.toAuthServices) now state.tables).2 }) := by
    rw [step_eq_run rfl]
    dsimp only [AccountsCall.program]
    rw [Program.run_map, run_account, run_auth]
  rw [step, stepped]
  refine ensures.imp fun userId familyId passwordHash holds => ?_
  refine ⟨holds.1, ?_⟩
  rintro ⟨⟨raw, password, drawn, same, redeemed⟩, answer⟩
  cases same
  rw [stepped] at answer
  cases ended : ((ConfirmPasswordReset.execute deps.toAuthServices salt
      rawToken newPassword).run (authAdapter deps.toAuthServices) now
        state.tables).1 with
  | error error =>
      dsimp only at answer
      rw [ended] at answer
      cases answer
  | ok reply => exact holds.2 reply ended redeemed

/-- What a call leaves is backed by what signed in before it, or by itself. -/
theorem backed_step (backed : Backed origin state.tables)
    (label : AccountsCall × Time) :
    Backed (fun userId familyId passwordHash =>
        SignsIn deps userId familyId passwordHash state label ∨
          origin userId familyId passwordHash ∧
            ¬ Renews deps userId state label)
      (step deps state label).tables := by
  obtain ⟨call, now⟩ := label
  have keeping (other : ∀ rawToken newPassword salt,
        call ≠ .confirmPasswordReset rawToken newPassword salt)
      {after : AuthState} (kept : Backed origin after) :
      Backed (fun userId familyId passwordHash =>
        SignsIn deps userId familyId passwordHash state (call, now) ∨
          origin userId familyId passwordHash ∧
            ¬ Renews deps userId state (call, now)) after :=
    kept.imp fun _ _ _ holds => .inr ⟨holds, not_renews other⟩
  have signing (other : ∀ rawToken newPassword salt,
        call ≠ .confirmPasswordReset rawToken newPassword salt)
      {after : AuthState}
      (kept : Backed (withSignIn deps call origin
        ((accountsMachine deps).step state (call, now)).1) after) :
      Backed (fun userId familyId passwordHash =>
        SignsIn deps userId familyId passwordHash state (call, now) ∨
          origin userId familyId passwordHash ∧
            ¬ Renews deps userId state (call, now)) after := by
    refine kept.imp fun userId familyId passwordHash => ?_
    rintro (⟨vouches, answer⟩ | before)
    · exact .inl ⟨vouches, answer⟩
    · exact .inr ⟨before, not_renews other⟩
  by_cases plain : Plain call
  · refine keeping ?_ (backed_plain plain backed)
    rintro rawToken newPassword salt rfl
    exact plain
  cases call with
  | register input draws =>
      refine signing (fun _ _ _ => AccountsCall.noConfusion)
        (backed_signIn (ensures_register backed input draws) ?_)
      exact harmless_sendVerificationEmail
  | login input draws =>
      exact signing (fun _ _ _ => AccountsCall.noConfusion)
        (backed_signIn (ensures_login backed input draws) trivial)
  | refresh rawToken sessionMeta draws =>
      let sessionCall : SessionCall := .refresh draws rawToken sessionMeta
      exact keeping (fun _ _ _ => AccountsCall.noConfusion)
        (backed_session sessionCall backed
          (step_session sessionCall rfl rfl rfl) rfl)
  | logout rawToken =>
      exact keeping (fun _ _ _ => AccountsCall.noConfusion)
        (backed_session (.revoke rawToken) backed
          (step_session (.revoke rawToken) rfl rfl rfl) rfl)
  | confirmPasswordReset rawToken newPassword salt =>
      exact (backed_confirmPasswordReset backed rawToken newPassword salt).imp
        fun _ _ _ => .inr
  | me userId => exact absurd trivial plain
  | updateProfile userId input => exact absurd trivial plain
  | requestEmailVerification userId draws => exact absurd trivial plain
  | requestPasswordReset email draws => exact absurd trivial plain
  | confirmEmailVerification rawToken now => exact absurd trivial plain

end Calls

/-! ## Refreshed sessions -/

section Refreshes

variable {deps : SessionDeps} {now : Time} {tables : AuthState}
  {draws : SessionDraws} {sessionMeta : Option SessionMeta} {session : Session}

/-- The session was handed out for an unrevoked token of the table. -/
structure HandedOut (deps : SessionDeps) (draws : SessionDraws) (now : Time)
    (tables : AuthState) (session : Session) (live : RefreshToken) :
    Prop where
  stored : live ∈ tables.refreshTokens
  unrevoked : live.revokedAt = none
  accessToken :
    session.accessToken =
      deps.signJwt { sub := live.userId, jti := draws.jti } now

theorem handedOut_of_rotated {live : RefreshToken}
    (stored : live ∈ tables.refreshTokens) (unrevoked : live.revokedAt = none)
    (ran : ((RefreshSession.rotateToken deps draws live sessionMeta).run
      (authAdapter deps.toAuthServices) now tables).1 = .ok session) :
    HandedOut deps draws now tables session live := by
  cases accepted : insertViolation tables.users tables.refreshTokens
      (RefreshSession.successor deps draws live sessionMeta) with
  | none =>
      rw [run_rotateToken accepted] at ran
      cases ran
      exact ⟨stored, unrevoked, rfl⟩
  | some cause =>
      rw [RefreshSession.rotateToken, refreshTokenRepo.insert,
        Program.perform_bind,
        Program.run_call_error _ (authAdapter_insert_refused accepted)] at ran
      cases ran

theorem refuse_ne_ok {presented : RefreshToken} :
    ((RefreshSession.refuse presented).run (authAdapter deps.toAuthServices)
      now tables).1 ≠ .ok session := by
  intro ran
  unfold RefreshSession.refuse at ran
  cases replaced : presented.replacedById with
  | none =>
      rw [replaced] at ran
      cases ran
  | some id =>
      rw [replaced] at ran
      cases ran

/-- What is handed out is for the presented token or for its replacement. -/
theorem handedOut_of_lookedUp {presented : RefreshToken}
    (stored : presented ∈ tables.refreshTokens)
    (ran : ((RefreshSession.lookedUp deps draws sessionMeta
      (some presented)).run (authAdapter deps.toAuthServices) now tables).1 =
        .ok session) :
    ∃ live, HandedOut deps draws now tables session live ∧
      (live = presented ∨ presented.replacedById = some live.id) := by
  unfold RefreshSession.lookedUp at ran
  dsimp only at ran
  split at ran
  · unfold RefreshSession.replayed at ran
    split at ran
    · exact absurd ran refuse_ne_ok
    · rename_i replacedById replaced
      split at ran
      · rw [refreshTokenRepo.findById, Program.perform_bind,
          Program.run_call_ok _ (authAdapter_findById replacedById)] at ran
        cases found : first (fun row => row.id = replacedById)
            tables.refreshTokens with
        | none =>
            rw [found] at ran
            exact absurd ran refuse_ne_ok
        | some live =>
            rw [found] at ran
            dsimp only at ran
            split at ran
            · rename_i active
              refine ⟨live, handedOut_of_rotated (mem_of_first found) active.1
                ran, .inr (replaced.trans ?_)⟩
              exact congrArg some (condition_of_first found).symm
            · exact absurd ran refuse_ne_ok
      · exact absurd ran refuse_ne_ok
  · rename_i unrevoked
    split at ran
    · cases ran
    · exact ⟨presented, handedOut_of_rotated stored unrevoked ran, .inl rfl⟩

theorem handedOut_of_refreshed {deps : AccountsDeps} {state : AccountsState}
    {rawToken : String}
    (refreshed : ((accountsMachine deps).step state
      (.refresh rawToken sessionMeta draws, now)).1 =
        .ok (.refreshed session)) :
    ∃ presented live,
      first (fun row => row.tokenHash = deps.hashRefresh rawToken)
          state.tables.refreshTokens = some presented ∧
        HandedOut deps.toSessionDeps draws now state.tables session live ∧
          (live = presented ∨ presented.replacedById = some live.id) := by
  rw [step_eq_run rfl] at refreshed
  dsimp only [AccountsCall.program] at refreshed
  rw [Program.run_map, run_account, run_auth, run_execute] at refreshed
  cases selected : first
      (fun row => row.tokenHash = deps.hashRefresh rawToken)
      state.tables.refreshTokens with
  | none =>
      rw [selected] at refreshed
      cases refreshed
  | some presented =>
      rw [selected] at refreshed
      cases ran : ((RefreshSession.lookedUp deps.toSessionDeps draws sessionMeta
          (some presented)).run (authAdapter deps.toAuthServices) now
            state.tables).1 with
      | error error =>
          dsimp only at refreshed
          rw [ran] at refreshed
          cases refreshed
      | ok returned =>
          dsimp only at refreshed
          rw [ran] at refreshed
          cases refreshed
          obtain ⟨live, handedOut, same⟩ :=
            handedOut_of_lookedUp (mem_of_first selected) ran
          exact ⟨presented, live, rfl, handedOut, same⟩

end Refreshes

/-! ## Every run -/

section Runs

variable {deps : AccountsDeps}

/-- The state after the calls, from the empty tables on. -/
def reached (deps : AccountsDeps) (history : List (AccountsCall × Time)) :
    AccountsState :=
  run (step deps) noAccounts history

/-- The user has opened the family with the password behind the hash, and has
not reset the password since. -/
def SignedInSince (deps : AccountsDeps) (history : List (AccountsCall × Time))
    (userId familyId passwordHash : String) : Prop :=
  Since (step deps) (SignsIn deps userId familyId passwordHash)
    (fun state label => ¬ Renews deps userId state label) noAccounts history

theorem backed_reached (history : List (AccountsCall × Time)) :
    Backed (SignedInSince deps history) (reached deps history).tables := by
  induction history using List.reverseRecOn with
  | nil =>
      exact
        { userIds := unclashing_nil
          tokenIds := unclashing_nil
          family := fun _ stored => absurd stored List.not_mem_nil
          origin := fun _ stored => absurd stored List.not_mem_nil }
  | append_singleton history label induction =>
      unfold reached at induction ⊢
      rw [run_concat]
      exact (backed_step induction label).imp fun _ _ _ => since_concat.mpr

/--
Sessions rest on the password in force, whatever the grace window.

If a refresh is answered, then the session is one of a user whose registration
or login opened the family of the presented token with the password that is in
force now, and no reset of that password has been confirmed since.
-/
theorem sessions_rest_on_password (history : List (AccountsCall × Time))
    {rawToken : String} {sessionMeta : Option SessionMeta}
    {draws : SessionDraws} {now : Time} {session : Session}
    (refreshed : ((accountsMachine deps).step (reached deps history)
      (.refresh rawToken sessionMeta draws, now)).1 =
        .ok (.refreshed session)) :
    ∃ presented user,
      first (fun row => row.tokenHash = deps.hashRefresh rawToken)
          (reached deps history).tables.refreshTokens = some presented ∧
        first (fun other => other.id = user.id)
            (reached deps history).tables.users = some user ∧
          session.accessToken =
            deps.signJwt { sub := user.id, jti := draws.jti } now ∧
          SignedInSince deps history user.id presented.familyId
            user.passwordHash := by
  have backed : Backed (SignedInSince deps history)
      (reached deps history).tables := backed_reached history
  obtain ⟨presented, live, selected, handedOut, same⟩ :=
    handedOut_of_refreshed refreshed
  obtain ⟨user, known, isUser, since⟩ :=
    backed.origin live handedOut.stored handedOut.unrevoked
  have sameFamily : live.familyId = presented.familyId := by
    rcases same with rfl | replaced
    · rfl
    · obtain ⟨next, stored, sameId, sameFamily⟩ :=
        backed.family presented (mem_of_first selected) live.id replaced
      rw [← sameFamily,
        backed.tokenIds.eq_of_key stored handedOut.stored sameId]
  refine ⟨presented, user, selected, backed.userIds.first_eq_some known, ?_,
    sameFamily ▸ since⟩
  rw [isUser]
  exact handedOut.accessToken

end Runs

/-- The session that is refreshed was opened after the reset. -/
theorem sessions_rest_on_password_sampleRun :
    ∃ user : User, user.email = "ana@example.com" ∧
      SignedInSince sampleDeps sampleRun user.id "family-3"
        user.passwordHash := by
  obtain ⟨presented, user, selected, known, -, since⟩ :=
    sessions_rest_on_password sampleRun
      (show ((accountsMachine sampleDeps).step (reached sampleDeps sampleRun)
          (.refresh "raw-3" none (sampleDraws 6000 "2"), 6000)).1 =
            .ok (.refreshed ⟨"user-1.jti-2", "raw-2"⟩) by decide +kernel)
  have family : (first (fun row => row.tokenHash =
      sampleDeps.hashRefresh "raw-3")
        (reached sampleDeps sampleRun).tables.refreshTokens).map
          (fun row => row.familyId) = some "family-3" := by decide +kernel
  have email : ∀ user ∈ (reached sampleDeps sampleRun).tables.users,
      user.email = "ana@example.com" := by decide +kernel
  rw [selected] at family
  refine ⟨user, email user (mem_of_first known), ?_⟩
  rwa [← Option.some.inj family]

end ChatBackend.Auth.SessionOrigins
