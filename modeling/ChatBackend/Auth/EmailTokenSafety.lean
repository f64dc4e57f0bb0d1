import ChatBackend.Auth.EmailTokens
import ChatBackend.Effects.Interleaving
import Mathlib.Logic.Equiv.Basic

/-!
# Email tokens are used once and for one purpose

Any number of calls issue email tokens and any number of calls present them.
`Tracks` ties what a schedule has performed to the table: every row has been
issued, every issued token has its row, and what has been accepted is used up.
A call writes to a user only after a token of that user has been accepted, so
the writes inherit what holds of the tokens.

The table allows each hash once, so nothing is assumed of the drawn raw tokens;
the hash has to be injective.
-/

namespace ChatBackend.Auth.EmailTokenSafety

open Effects
open Relational
open ChatBackend.Auth.TokenStore
open ChatBackend.Auth.EmailTokens

variable {Name : Type*}

/-! ## Specification -/

/-- The raw token that a call draws and the record it may insert for it. -/
inductive Makes (deps : AccountDeps) :
    EmailCall → String → NewEmailToken → Prop where
  | registration (input : RegisterUser.Input) (draws : RegisterUser.Draws) :
      Makes deps (.registerUser input draws) draws.mail.raw
        (verificationToken deps draws.mail draws.userId)
  | verification (userId : String) (draws : EmailDraws) :
      Makes deps (.requestEmailVerification userId draws) draws.raw
        (verificationToken deps draws userId)
  | reset (email userId : String) (draws : EmailDraws) :
      Makes deps (.requestPasswordReset email draws) draws.raw
        (resetToken deps draws userId)

/-- The raw token that a call presents, and what it presents it as. -/
def presented : EmailCall → Option (String × EmailTokenKind)
  | .confirmEmailVerification rawToken _ => some (rawToken, .verify)
  | .confirmPasswordReset rawToken _ _ => some (rawToken, .reset)
  | _ => none

/-- The user with the id. -/
def userOf (id : String) (state : AuthState) : Option User :=
  first (fun user => user.id = id) state.users

section Specification

variable (deps : AccountDeps) (calls : Name → EmailCall)

/-- Every call is about to start. -/
def begin (state : AuthState) :
    Config Name AccountPort AuthState Failure Unit where
  shared := state
  threads := fun name => (calls name).program deps

variable [DecidableEq Name]
  (start : Config Name AccountPort AuthState Failure Unit)
  (schedule : List (Name × Time))

/-- The call has issued the raw token with the record. -/
def Issued (issuer : Name) (raw : String) (record : NewEmailToken) : Prop :=
  Makes deps (calls issuer) raw record ∧
    ∃ now, start.Performs (accountAdapter deps.toAuthServices) schedule issuer
      (.insertEmailToken record) now ()

/-- The raw token that the call presented has been accepted at the time. -/
def Accepted (name : Name) (raw : String) (kind : EmailTokenKind) (now : Time)
    (token : EmailToken) : Prop :=
  presented (calls name) = some (raw, kind) ∧
    start.Performs (accountAdapter deps.toAuthServices) schedule name
      (.auth (.emailTokenRepo (.consume (deps.sha256Sync raw) kind))) now
      (some token)

/-- The call has had a token accepted that was issued for the user. -/
def Entitled (kind : EmailTokenKind) (id : String) (name : Name) : Prop :=
  ∃ raw now token issuer record,
    Accepted deps calls start schedule name raw kind now token ∧
      Issued deps calls start schedule issuer raw record ∧
      record.kind = kind ∧ record.userId = id

/-- The next turn changes the field of a stored user. -/
def Changes {Value : Type} (field : User → Value) (id : String)
    (turn : Name × Time) : Prop :=
  ∃ user,
    userOf id (start.play (accountAdapter deps.toAuthServices)
      schedule).shared = some user ∧
    (userOf id (start.play (accountAdapter deps.toAuthServices)
      (schedule ++ [turn])).shared).map field ≠ some (field user)

/-- What the tokens of a schedule are good for. -/
structure TokensSafe : Prop where
  issuedOnce : ∀ raw issuer other record otherRecord,
    Issued deps calls start schedule issuer raw record →
      Issued deps calls start schedule other raw otherRecord →
        issuer = other ∧ record = otherRecord
  acceptedOnce : ∀ raw name other kind otherKind now otherNow token otherToken,
    Accepted deps calls start schedule name raw kind now token →
      Accepted deps calls start schedule other raw otherKind otherNow
        otherToken →
        name = other
  acceptedIssued : ∀ name raw kind now token,
    Accepted deps calls start schedule name raw kind now token →
      ∃ issuer record, Issued deps calls start schedule issuer raw record ∧
        record.kind = kind ∧ record.userId = token.userId ∧
          now < record.expiresAt
  passwordChanges : ∀ id turn,
    Changes deps start schedule User.passwordHash id turn →
      Entitled deps calls start schedule .reset id turn.1
  emailVerifiedChanges : ∀ id turn,
    Changes deps start schedule User.emailVerifiedAt id turn →
      Entitled deps calls start schedule .verify id turn.1

end Specification

/-! ## What a call issues -/

/-- The patch leaves the fields alone that the kind is not for. -/
def OnlySets : EmailTokenKind → UserPatch → Prop
  | .verify, patch => patch.passwordHash = none
  | .reset, patch => patch.emailVerifiedAt = none

/-- The operations that insert and update only such tokens and users. -/
def Within (inserts : NewEmailToken → Prop)
    (updates : String → UserPatch → Prop) : AccountOp → Prop
  | .insertEmailToken record => inserts record
  | .auth (.emailTokenRepo _) => False
  | .auth (.userRepo (.update id patch)) => updates id patch
  | _ => True

theorem Within.imp {inserts inserts' : NewEmailToken → Prop}
    {updates updates' : String → UserPatch → Prop}
    (insertsImp : ∀ record, inserts record → inserts' record)
    (updatesImp : ∀ id patch, updates id patch → updates' id patch)
    (op : AccountOp) (within : Within inserts updates op) :
    Within inserts' updates' op := by
  cases op with
  | insertEmailToken record => exact insertsImp record within
  | auth op =>
      cases op with
      | emailTokenRepo op => exact within
      | userRepo op =>
          cases op with
          | update id patch => exact updatesImp id patch within
      | _ => trivial
  | _ => trivial

section Calls

variable (deps : AccountDeps) {updates : String → UserPatch → Prop}

/-- A call that presents no token inserts its own. -/
theorem issuing_issues {call : EmailCall} (issuing : presented call = none) :
    (call.program deps).Issues
      (Within (fun record => ∃ raw, Makes deps call raw record) updates) := by
  cases call with
  | registerUser input draws =>
      refine Program.Issues.bind ?_ ?_
      · refine Program.Issues.perform_bind trivial ?_
        intro found
        cases found with
        | some user => trivial
        | none =>
            refine ⟨trivial, fun passwordHash => ⟨trivial, fun user => ?_⟩⟩
            exact ⟨trivial, fun _ => ⟨trivial, fun _ => trivial⟩⟩
      · intro registration
        exact ⟨⟨_, .registration input draws⟩,
          fun _ => ⟨trivial, fun _ => trivial⟩⟩
  | requestEmailVerification userId draws =>
      refine Program.Issues.perform_bind trivial ?_
      intro found
      cases found with
      | none => trivial
      | some user =>
          dsimp only
          cases user.emailVerifiedAt with
          | some verifiedAt => trivial
          | none =>
              exact ⟨⟨_, .verification userId draws⟩,
                fun _ => ⟨trivial, fun _ => trivial⟩⟩
  | requestPasswordReset email draws =>
      refine Program.Issues.perform_bind trivial ?_
      intro found
      cases found with
      | none => trivial
      | some user =>
          exact ⟨⟨_, .reset email user.id draws⟩,
            fun _ => ⟨trivial, fun _ => trivial⟩⟩
  | confirmEmailVerification rawToken now => cases issuing
  | confirmPasswordReset rawToken newPassword salt => cases issuing

/--
A call that presents a token consumes it first, and then updates nothing but
the user of the token.
-/
theorem presenting_program {call : EmailCall} {raw : String}
    {kind : EmailTokenKind} (presents : presented call = some (raw, kind)) :
    ∃ next : Option EmailToken → AccountProgram Unit,
      call.program deps =
          .call (.auth (.emailTokenRepo
            (.consume (deps.sha256Sync raw) kind))) next ∧
        (next none).Finished ∧
        ∀ token, (next (some token)).Issues
          (Within (fun _ => False) fun id patch =>
            id = token.userId ∧ OnlySets kind patch) := by
  cases call with
  | registerUser input draws => cases presents
  | requestEmailVerification userId draws => cases presents
  | requestPasswordReset email draws => cases presents
  | confirmEmailVerification rawToken now =>
      cases presents
      refine ⟨_, rfl, rfl, ?_⟩
      intro token
      exact ⟨⟨rfl, rfl⟩, fun _ => trivial⟩
  | confirmPasswordReset rawToken newPassword salt =>
      cases presents
      refine ⟨_, rfl, rfl, ?_⟩
      intro token
      refine ⟨trivial, fun passwordHash => ⟨⟨rfl, rfl⟩, fun user => ?_⟩⟩
      exact ⟨trivial, fun _ => trivial⟩

end Calls

/-! ## What a turn does to the tables -/

/-- `WHERE token_hash = ... AND kind = ... AND used_at IS NULL AND ...` -/
abbrev Usable (hash : String) (kind : EmailTokenKind) (now : Time)
    (row : EmailToken) : Prop :=
  row.tokenHash = hash ∧ row.kind = kind ∧ row.usedAt = none ∧
    now < row.expiresAt

/-- `SET used_at = now()` -/
abbrev use (now : Time) (row : EmailToken) : EmailToken :=
  { row with usedAt := some now }

section Statements

variable {services : AuthServices} {now : Time} {state after : AuthState}

theorem accountAdapter_refreshTokenRepo {op : RefreshTokenOp}
    {answer : op.Answer}
    (answers : accountAdapter services (.auth (.refreshTokenRepo op)) now
      state = .ok (answer, after)) :
    after.users = state.users ∧ after.emailTokens = state.emailTokens := by
  simp only [accountAdapter, authAdapter] at answers
  cases handled : PgRefreshTokenRepository.handle state.users op now
      state.refreshTokens with
  | error error =>
      rw [handled] at answers
      cases answers
  | ok result =>
      rw [handled] at answers
      cases answers
      exact ⟨rfl, rfl⟩

/-- A user that is updated is patched, and no other row is touched. -/
theorem accountAdapter_update {id : String} {patch : UserPatch} {user : User}
    (answers : accountAdapter services (.auth (.userRepo (.update id patch)))
      now state = .ok (user, after)) :
    after.users = updateWhere (fun row => row.id = id)
        (PgUserRepository.patchUser now patch) state.users ∧
      after.emailTokens = state.emailTokens := by
  have updates : authAdapter services (.userRepo (.update id patch)) now
      state = .ok (user, after) := answers
  obtain ⟨-, stored, -, -, rfl⟩ := authAdapter_update_eq_ok_iff.mp updates
  exact ⟨rfl, rfl⟩

theorem accountAdapter_insertEmailToken {record : NewEmailToken}
    (answers : accountAdapter services (.insertEmailToken record) now state =
      .ok ((), after)) :
    (∀ row ∈ state.emailTokens, row.tokenHash ≠ record.tokenHash) ∧
      (∃ user ∈ state.users, user.id = record.userId) ∧
      after = { state with
        emailTokens := state.emailTokens ++ [record.row] } := by
  simp only [accountAdapter] at answers
  cases violated : PgEmailTokenRepository.insertViolation state.users
      state.emailTokens record with
  | some cause =>
      rw [violated] at answers
      cases answers
  | none =>
      rw [violated] at answers
      cases answers
      obtain ⟨fresh, owner⟩ :=
        PgEmailTokenRepository.insertViolation_eq_none violated
      exact ⟨fresh, owner, rfl⟩

theorem accountAdapter_createUser {record : NewUser} {user : User}
    (answers : accountAdapter services (.createUser record) now state =
      .ok (user, after)) :
    after = { state with users := state.users ++ [user] } := by
  simp only [accountAdapter] at answers
  cases violated : PgUserRepository.createViolation state.users record with
  | some cause =>
      rw [violated] at answers
      cases answers
  | none =>
      rw [violated] at answers
      cases answers
      rfl

/-- Only two statements touch the email tokens. -/
theorem emailTokens_answered {op : AccountOp} {answer : op.Answer}
    (answers : accountAdapter services op now state = .ok (answer, after))
    (inserts : ∀ record, op ≠ .insertEmailToken record)
    (consumes : ∀ hash kind,
      op ≠ .auth (.emailTokenRepo (.consume hash kind))) :
    after.emailTokens = state.emailTokens := by
  cases op with
  | insertEmailToken record => exact absurd rfl (inserts record)
  | createUser record => rw [accountAdapter_createUser answers]
  | auth op =>
      cases op with
      | refreshTokenRepo op =>
          exact (accountAdapter_refreshTokenRepo answers).2
      | emailTokenRepo op =>
          cases op with
          | consume hash kind => exact absurd rfl (consumes hash kind)
      | userRepo op =>
          cases op with
          | update id patch => exact (accountAdapter_update answers).2
      | _ =>
          cases answers
          rfl
  | findUserByEmail email =>
      obtain ⟨-, -, rfl⟩ :=
        accountAdapter_findUserByEmail_eq_ok_iff.mp answers
      rfl
  | _ =>
      cases answers
      rfl

/-- Only an update changes what is stored of a user. -/
theorem userOf_answered {op : AccountOp} {answer : op.Answer} {id : String}
    {user : User} (stored : userOf id state = some user)
    (answers : accountAdapter services op now state = .ok (answer, after)) :
    userOf id after = some user ∨
      ∃ patch, op = .auth (.userRepo (.update id patch)) ∧
        userOf id after =
          some (PgUserRepository.patchUser now patch user) := by
  unfold userOf at stored ⊢
  cases op with
  | insertEmailToken record =>
      rw [(accountAdapter_insertEmailToken answers).2.2]
      exact .inl stored
  | createUser record =>
      rw [accountAdapter_createUser answers]
      exact .inl (first_append stored)
  | auth op =>
      cases op with
      | refreshTokenRepo op =>
          rw [(accountAdapter_refreshTokenRepo answers).1]
          exact .inl stored
      | emailTokenRepo op =>
          cases op with
          | consume hash kind =>
              cases answers
              exact .inl stored
      | userRepo op =>
          cases op with
          | update target patch =>
              have same := condition_of_first stored
              have keeps (row : User) :
                  (PgUserRepository.patchUser now patch row).id = id ↔
                    row.id = id := Iff.rfl
              rw [(accountAdapter_update answers).1, first_updateWhere keeps,
                stored]
              by_cases hit : id = target
              · subst hit
                exact .inr ⟨patch, rfl, by simp [same]⟩
              · exact .inl (by simp [same, hit])
      | _ =>
          cases answers
          exact .inl stored
  | findUserByEmail email =>
      obtain ⟨-, -, rfl⟩ :=
        accountAdapter_findUserByEmail_eq_ok_iff.mp answers
      exact .inl stored
  | _ =>
      cases answers
      exact .inl stored

end Statements

section Turns

variable (services : AuthServices)
  (config : Config Name AccountPort AuthState Failure Unit)
  (turn : Name × Time)

/-- The turn inserts the record. -/
def Inserts (record : NewEmailToken) : Prop :=
  config.pending turn.1 = some (.insertEmailToken record) ∧
    ∃ after, accountAdapter services (.insertEmailToken record) turn.2
      config.shared = .ok ((), after)

/-- The turn consumes the token. -/
def Consumes (hash : String) (kind : EmailTokenKind) (token : EmailToken) :
    Prop :=
  config.pending turn.1 =
      some (.auth (.emailTokenRepo (.consume hash kind))) ∧
    ∃ after, accountAdapter services
      (.auth (.emailTokenRepo (.consume hash kind))) turn.2 config.shared =
        .ok (some token, after)

/-- What a turn makes of the email tokens. -/
inductive TokenTurn : List EmailToken → Prop where
  | inserts (record : NewEmailToken)
      (inserts : Inserts services config turn record)
      (fresh : ∀ row ∈ config.shared.emailTokens,
        row.tokenHash ≠ record.tokenHash) :
      TokenTurn (config.shared.emailTokens ++ [record.row])
  | consumes (hash : String) (kind : EmailTokenKind) (row : EmailToken)
      (consumes : Consumes services config turn hash kind (use turn.2 row))
      (found : first (Usable hash kind turn.2) config.shared.emailTokens =
        some row) :
      TokenTurn (updateWhere (Usable hash kind turn.2) (use turn.2)
        config.shared.emailTokens)
  | quiet (noInsert : ∀ record, ¬ Inserts services config turn record)
      (noConsume : ∀ hash kind token,
        ¬ Consumes services config turn hash kind token) :
      TokenTurn config.shared.emailTokens

variable {services config turn}

theorem Inserts.not_consumes {record : NewEmailToken}
    (inserts : Inserts services config turn record) (hash : String)
    (kind : EmailTokenKind) (token : EmailToken) :
    ¬ Consumes services config turn hash kind token := by
  rintro ⟨waits, -⟩
  cases waits.symm.trans inserts.1

theorem Consumes.not_inserts {hash : String} {kind : EmailTokenKind}
    {token : EmailToken}
    (consumes : Consumes services config turn hash kind token)
    (record : NewEmailToken) : ¬ Inserts services config turn record := by
  rintro ⟨waits, -⟩
  cases waits.symm.trans consumes.1

/-- A turn whose operation is neither of the two is quiet. -/
theorem TokenTurn.of_other {pending : Option AccountOp}
    (waits : config.pending turn.1 = pending)
    (inserts : ∀ record, pending ≠ some (.insertEmailToken record))
    (consumes : ∀ hash kind,
      pending ≠ some (.auth (.emailTokenRepo (.consume hash kind)))) :
    TokenTurn services config turn config.shared.emailTokens := by
  subst waits
  exact .quiet (fun record insert => inserts record insert.1)
    (fun hash kind token consume => consumes hash kind consume.1)

/-- A turn whose operation fails is quiet. -/
theorem TokenTurn.of_failed {op : AccountOp} {error : Failure}
    (waits : config.pending turn.1 = some op)
    (fails : accountAdapter services op turn.2 config.shared =
      .error error) :
    TokenTurn services config turn config.shared.emailTokens := by
  refine .quiet ?_ ?_
  · rintro record ⟨insertion, after, answers⟩
    cases Option.some.inj (waits.symm.trans insertion)
    cases answers.symm.trans fails
  · rintro hash kind token ⟨consumption, after, answers⟩
    cases Option.some.inj (waits.symm.trans consumption)
    cases answers.symm.trans fails

theorem TokenTurn.of_insert {record : NewEmailToken} {after : AuthState}
    (waits : config.pending turn.1 = some (.insertEmailToken record))
    (answers : accountAdapter services (.insertEmailToken record) turn.2
      config.shared = .ok ((), after)) :
    TokenTurn services config turn after.emailTokens := by
  rcases accountAdapter_insertEmailToken answers with ⟨fresh, -, rfl⟩
  exact .inserts record ⟨waits, _, answers⟩ fresh

theorem TokenTurn.of_consume {hash : String} {kind : EmailTokenKind}
    {answer : Option EmailToken} {after : AuthState}
    (waits : config.pending turn.1 =
      some (.auth (.emailTokenRepo (.consume hash kind))))
    (answers : accountAdapter services
      (.auth (.emailTokenRepo (.consume hash kind))) turn.2 config.shared =
        .ok (answer, after)) :
    TokenTurn services config turn after.emailTokens := by
  have answered : accountAdapter services
      (.auth (.emailTokenRepo (.consume hash kind))) turn.2 config.shared =
        .ok ((first (Usable hash kind turn.2)
            config.shared.emailTokens).map (use turn.2),
          { config.shared with
            emailTokens := updateWhere (Usable hash kind turn.2)
              (use turn.2) config.shared.emailTokens }) := rfl
  cases answered.symm.trans answers
  cases found : first (Usable hash kind turn.2) config.shared.emailTokens with
  | some row =>
      rw [found] at answered
      exact .consumes hash kind row ⟨waits, _, answered⟩ found
  | none =>
      have idle : updateWhere (Usable hash kind turn.2) (use turn.2)
          config.shared.emailTokens = config.shared.emailTokens :=
        updateWhere_eq_self fun row member usable =>
          absurd usable (first_eq_none_iff.mp found row member)
      dsimp only
      rw [idle]
      refine .quiet ?_ ?_
      · rintro record ⟨insertion, -⟩
        cases waits.symm.trans insertion
      · rintro hash' kind' token ⟨consumption, later, accepts⟩
        cases waits.symm.trans consumption
        rw [answered, found] at accepts
        cases accepts

theorem token_turn [DecidableEq Name] (services : AuthServices)
    (config : Config Name AccountPort AuthState Failure Unit)
    (turn : Name × Time) :
    TokenTurn services config turn
      (config.advance (accountAdapter services) turn).shared.emailTokens := by
  have effect := config.advance_effect (accountAdapter services) turn
  generalize (config.advance (accountAdapter services) turn).shared = after
    at effect ⊢
  cases effect with
  | idle finished =>
      exact .of_other finished (fun _ => nofun) (fun _ _ => nofun)
  | failed op error waits fails => exact .of_failed waits fails
  | answered op answer after waits answers =>
      by_cases insert : ∃ record, op = .insertEmailToken record
      · rcases insert with ⟨record, rfl⟩
        exact .of_insert waits answers
      · by_cases consume : ∃ hash kind,
            op = .auth (.emailTokenRepo (.consume hash kind))
        · rcases consume with ⟨hash, kind, rfl⟩
          exact .of_consume waits answers
        · push Not at insert consume
          rw [emailTokens_answered answers insert consume]
          exact .of_other waits
            (fun record equal => insert record (Option.some.inj equal))
            (fun hash kind equal => consume hash kind (Option.some.inj equal))

end Turns

/-! ## The ledger -/

/-- The row is that of the record, used or not. -/
def Holds (row : EmailToken) (record : NewEmailToken) : Prop :=
  row = { record.row with usedAt := row.usedAt }

theorem Holds.use {row : EmailToken} {record : NewEmailToken}
    (holds : Holds row record) (now : Time) :
    Holds (use now row) record := by
  have used := congrArg (EmailTokenSafety.use now) holds
  exact used

theorem Makes.tokenHash {deps : AccountDeps} {call : EmailCall}
    {raw : String} {record : NewEmailToken}
    (makes : Makes deps call raw record) :
    record.tokenHash = deps.sha256Sync raw := by
  cases makes with
  | registration input draws => rfl
  | verification userId draws => rfl
  | reset email userId draws => rfl

section Ledger

variable [DecidableEq Name] {deps : AccountDeps} {calls : Name → EmailCall}
  {start : Config Name AccountPort AuthState Failure Unit}
  {schedule : List (Name × Time)} {turn : Name × Time}

theorem issued_concat_iff {issuer : Name} {raw : String}
    {record : NewEmailToken} :
    Issued deps calls start (schedule ++ [turn]) issuer raw record ↔
      Issued deps calls start schedule issuer raw record ∨
        turn.1 = issuer ∧ Makes deps (calls issuer) raw record ∧
          Inserts deps.toAuthServices
            (start.play (accountAdapter deps.toAuthServices) schedule) turn
            record := by
  constructor
  · rintro ⟨makes, now, performs⟩
    rcases Config.performs_concat_iff.mp performs with
      earlier | ⟨rfl, waits, answers⟩
    · exact .inl ⟨makes, now, earlier⟩
    · exact .inr ⟨rfl, makes, waits, answers⟩
  · rintro (⟨makes, now, earlier⟩ | ⟨rfl, makes, waits, answers⟩)
    · exact ⟨makes, now, earlier.concat turn⟩
    · exact ⟨makes, turn.2,
        Config.performs_concat_iff.mpr (.inr ⟨rfl, waits, answers⟩)⟩

theorem accepted_concat_iff {name : Name} {raw : String}
    {kind : EmailTokenKind} {now : Time} {token : EmailToken} :
    Accepted deps calls start (schedule ++ [turn]) name raw kind now token ↔
      Accepted deps calls start schedule name raw kind now token ∨
        turn = (name, now) ∧ presented (calls name) = some (raw, kind) ∧
          Consumes deps.toAuthServices
            (start.play (accountAdapter deps.toAuthServices) schedule) turn
            (deps.sha256Sync raw) kind token := by
  constructor
  · rintro ⟨presents, performs⟩
    rcases Config.performs_concat_iff.mp performs with
      earlier | ⟨rfl, waits, answers⟩
    · exact .inl ⟨presents, earlier⟩
    · exact .inr ⟨rfl, presents, waits, answers⟩
  · rintro (⟨presents, earlier⟩ | ⟨rfl, presents, waits, answers⟩)
    · exact ⟨presents, earlier.concat turn⟩
    · exact ⟨presents,
        Config.performs_concat_iff.mpr (.inr ⟨rfl, waits, answers⟩)⟩

/-- A turn that inserts nothing issues nothing. -/
theorem issued_concat_of_not
    (noInsert : ∀ record, ¬ Inserts deps.toAuthServices
      (start.play (accountAdapter deps.toAuthServices) schedule) turn record)
    {issuer : Name} {raw : String} {record : NewEmailToken} :
    Issued deps calls start (schedule ++ [turn]) issuer raw record ↔
      Issued deps calls start schedule issuer raw record :=
  issued_concat_iff.trans (or_iff_left fun last => noInsert record last.2.2)

/-- A turn that consumes nothing accepts nothing. -/
theorem accepted_concat_of_not
    (noConsume : ∀ hash kind token, ¬ Consumes deps.toAuthServices
      (start.play (accountAdapter deps.toAuthServices) schedule) turn hash
      kind token)
    {name : Name} {raw : String} {kind : EmailTokenKind} {now : Time}
    {token : EmailToken} :
    Accepted deps calls start (schedule ++ [turn]) name raw kind now token ↔
      Accepted deps calls start schedule name raw kind now token :=
  accepted_concat_iff.trans
    (or_iff_left fun last => noConsume _ kind token last.2.2)

variable (deps calls start schedule) in
/-- What a schedule has performed, as the table has recorded it. -/
structure Ledger (rows : List EmailToken) : Prop where
  unique : UniqueKey EmailToken.tokenHash rows
  issued : ∀ row ∈ rows, ∃ issuer raw record,
    Issued deps calls start schedule issuer raw record ∧ Holds row record
  stored : ∀ issuer raw record,
    Issued deps calls start schedule issuer raw record →
      ∃ row ∈ rows, Holds row record
  issuedOnce : ∀ raw issuer other record otherRecord,
    Issued deps calls start schedule issuer raw record →
      Issued deps calls start schedule other raw otherRecord →
        issuer = other
  spent : ∀ name raw kind now token,
    Accepted deps calls start schedule name raw kind now token →
      ∃ row ∈ rows, row.tokenHash = deps.sha256Sync raw ∧ row.kind = kind ∧
        row.userId = token.userId ∧ now < row.expiresAt ∧ row.usedAt ≠ none
  acceptedOnce : ∀ raw name other kind otherKind now otherNow token otherToken,
    Accepted deps calls start schedule name raw kind now token →
      Accepted deps calls start schedule other raw otherKind otherNow
        otherToken →
        name = other

namespace Ledger

variable {rows : List EmailToken}

theorem quiet (ledger : Ledger deps calls start schedule rows)
    (noInsert : ∀ record, ¬ Inserts deps.toAuthServices
      (start.play (accountAdapter deps.toAuthServices) schedule) turn record)
    (noConsume : ∀ hash kind token, ¬ Consumes deps.toAuthServices
      (start.play (accountAdapter deps.toAuthServices) schedule) turn hash
      kind token) :
    Ledger deps calls start (schedule ++ [turn]) rows := by
  constructor
  · exact ledger.unique
  · simpa only [issued_concat_of_not noInsert] using ledger.issued
  · simpa only [issued_concat_of_not noInsert] using ledger.stored
  · simpa only [issued_concat_of_not noInsert] using ledger.issuedOnce
  · simpa only [accepted_concat_of_not noConsume] using ledger.spent
  · simpa only [accepted_concat_of_not noConsume] using ledger.acceptedOnce

/-- A row with a hash that is not stored yet has not been issued before. -/
theorem not_issued_of_fresh (ledger : Ledger deps calls start schedule rows)
    {issuer : Name} {raw : String} {record : NewEmailToken}
    (fresh : ∀ row ∈ rows, row.tokenHash ≠ deps.sha256Sync raw) :
    ¬ Issued deps calls start schedule issuer raw record := by
  intro issued
  rcases ledger.stored issuer raw record issued with ⟨row, member, holds⟩
  have hash : row.tokenHash = record.tokenHash :=
    congrArg EmailToken.tokenHash holds
  exact fresh row member (hash.trans issued.1.tokenHash)

/-- A token whose row is unused has not been accepted before. -/
theorem not_accepted_of_unused
    (ledger : Ledger deps calls start schedule rows) {name : Name}
    {raw : String} {kind : EmailTokenKind} {now : Time} {token row : EmailToken}
    (member : row ∈ rows) (hash : row.tokenHash = deps.sha256Sync raw)
    (unused : row.usedAt = none) :
    ¬ Accepted deps calls start schedule name raw kind now token := by
  intro accepted
  rcases ledger.spent name raw kind now token accepted with
    ⟨other, otherMember, otherHash, -, -, -, used⟩
  cases ledger.unique.eq_of_key member otherMember (hash.trans otherHash.symm)
  exact used unused

theorem insert (ledger : Ledger deps calls start schedule rows)
    {raw : String} {record : NewEmailToken}
    (makes : Makes deps (calls turn.1) raw record)
    (inserts : Inserts deps.toAuthServices
      (start.play (accountAdapter deps.toAuthServices) schedule) turn record)
    (fresh : ∀ row ∈ rows, row.tokenHash ≠ record.tokenHash) :
    Ledger deps calls start (schedule ++ [turn]) (rows ++ [record.row]) := by
  have sameRecord {other : NewEmailToken}
      (again : Inserts deps.toAuthServices
        (start.play (accountAdapter deps.toAuthServices) schedule) turn
        other) : other = record := by
    cases again.1.symm.trans inserts.1
    rfl
  have notBefore {issuer : Name} {raw : String} {other : NewEmailToken}
      (again : Makes deps (calls turn.1) raw record) :
      ¬ Issued deps calls start schedule issuer raw other := by
    rw [again.tokenHash] at fresh
    exact ledger.not_issued_of_fresh fresh
  have noConsume := inserts.not_consumes
  constructor
  · exact Unclashing.append ledger.unique fresh
  · intro row member
    rcases List.mem_append.mp member with old | new
    · rcases ledger.issued row old with ⟨issuer, raw, other, issued, holds⟩
      exact ⟨issuer, raw, other, issued_concat_iff.mpr (.inl issued), holds⟩
    · cases List.mem_singleton.mp new
      exact ⟨turn.1, raw, record,
        issued_concat_iff.mpr (.inr ⟨rfl, makes, inserts⟩), rfl⟩
  · intro issuer raw other issued
    rcases issued_concat_iff.mp issued with earlier | ⟨-, -, again⟩
    · rcases ledger.stored issuer raw other earlier with
        ⟨row, member, holds⟩
      exact ⟨row, List.mem_append_left _ member, holds⟩
    · cases sameRecord again
      exact ⟨record.row, List.mem_append_right _ (List.mem_singleton_self _),
        rfl⟩
  · intro raw issuer other first second issued otherIssued
    rcases issued_concat_iff.mp issued with
      earlier | ⟨rfl, makesFirst, again⟩
    · rcases issued_concat_iff.mp otherIssued with
        otherEarlier | ⟨rfl, makesSecond, again⟩
      · exact ledger.issuedOnce raw issuer other first second earlier
          otherEarlier
      · cases sameRecord again
        exact absurd earlier (notBefore makesSecond)
    · cases sameRecord again
      rcases issued_concat_iff.mp otherIssued with otherEarlier | last
      · exact absurd otherEarlier (notBefore makesFirst)
      · exact last.1
  · intro name raw kind now token accepted
    rw [accepted_concat_of_not noConsume] at accepted
    rcases ledger.spent name raw kind now token accepted with
      ⟨row, member, spent⟩
    exact ⟨row, List.mem_append_left _ member, spent⟩
  · simpa only [accepted_concat_of_not noConsume] using ledger.acceptedOnce

theorem consume (ledger : Ledger deps calls start schedule rows)
    {raw : String} {kind : EmailTokenKind} {row : EmailToken}
    (presents : presented (calls turn.1) = some (raw, kind))
    (consumes : Consumes deps.toAuthServices
      (start.play (accountAdapter deps.toAuthServices) schedule) turn
      (deps.sha256Sync raw) kind (use turn.2 row))
    (found : first (Usable (deps.sha256Sync raw) kind turn.2) rows =
      some row) :
    Ledger deps calls start (schedule ++ [turn])
      (updateWhere (Usable (deps.sha256Sync raw) kind turn.2) (use turn.2)
        rows) := by
  obtain ⟨hash, isKind, unused, inTime⟩ := condition_of_first found
  have member : row ∈ rows := mem_of_first found
  have noInsert := consumes.not_inserts
  have notBefore {name : Name} {kind : EmailTokenKind} {now : Time}
      {token : EmailToken} :
      ¬ Accepted deps calls start schedule name raw kind now token :=
    ledger.not_accepted_of_unused member hash unused
  constructor
  · exact ledger.unique.updateWhere fun row => rfl
  · simp only [issued_concat_of_not noInsert]
    refine forall_mem_updateWhere ledger.issued ?_
    intro row member usable
    rcases ledger.issued row member with
      ⟨issuer, raw, record, issued, holds⟩
    exact ⟨issuer, raw, record, issued, holds.use turn.2⟩
  · intro issuer raw' record issued
    rw [issued_concat_of_not noInsert] at issued
    rcases ledger.stored issuer raw' record issued with ⟨row, member, holds⟩
    refine ⟨_, mem_updateWhere.mpr ⟨row, member, rfl⟩, ?_⟩
    split_ifs
    · exact holds.use turn.2
    · exact holds
  · simpa only [issued_concat_of_not noInsert] using ledger.issuedOnce
  · intro name raw' kind' now token accepted
    rcases accepted_concat_iff.mp accepted with
      earlier | ⟨last, presentsLast, waits, after, answers⟩
    · rcases ledger.spent name raw' kind' now token earlier with
        ⟨row, member, otherHash, otherKind, user, inTime, used⟩
      refine ⟨_, mem_updateWhere.mpr ⟨row, member, rfl⟩, ?_⟩
      rw [if_neg fun usable => used usable.2.2.1]
      exact ⟨otherHash, otherKind, user, inTime, used⟩
    · cases last
      cases presents.symm.trans presentsLast
      rcases consumes.2 with ⟨after', answers'⟩
      cases answers.symm.trans answers'
      refine ⟨_, mem_updateWhere.mpr ⟨row, member, rfl⟩, ?_⟩
      rw [if_pos ⟨hash, isKind, unused, inTime⟩]
      exact ⟨hash, isKind, rfl, inTime, Option.some_ne_none _⟩
  · intro raw' name other kind' otherKind now otherNow token otherToken
      acceptance otherAcceptance
    rcases accepted_concat_iff.mp acceptance with
      earlier | ⟨last, presentsLast, -⟩
    · rcases accepted_concat_iff.mp otherAcceptance with
        otherEarlier | ⟨last, presentsLast, -⟩
      · exact ledger.acceptedOnce raw' name other kind' otherKind now otherNow
          token otherToken earlier otherEarlier
      · cases last
        cases presents.symm.trans presentsLast
        exact absurd earlier notBefore
    · cases last
      cases presents.symm.trans presentsLast
      rcases accepted_concat_iff.mp otherAcceptance with
        otherEarlier | ⟨otherLast, -⟩
      · exact absurd otherEarlier notBefore
      · exact congrArg Prod.fst otherLast

end Ledger

end Ledger

/-! ## Where the calls stand -/

section Stands

variable [DecidableEq Name] {deps : AccountDeps} {calls : Name → EmailCall}
  {start : Config Name AccountPort AuthState Failure Unit}
  {schedule : List (Name × Time)} {name : Name}
  {program : AccountProgram Unit}

/-- A token of the user has been accepted for what the patch sets. -/
def Backed (deps : AccountDeps) (calls : Name → EmailCall)
    (start : Config Name AccountPort AuthState Failure Unit)
    (schedule : List (Name × Time)) (name : Name) (id : String)
    (patch : UserPatch) : Prop :=
  ∃ raw kind now token,
    Accepted deps calls start schedule name raw kind now token ∧
      id = token.userId ∧ OnlySets kind patch

/-- What is left of a call: what its history allows, or all of it. -/
def Stands (deps : AccountDeps) (calls : Name → EmailCall)
    (start : Config Name AccountPort AuthState Failure Unit)
    (schedule : List (Name × Time)) (name : Name)
    (program : AccountProgram Unit) : Prop :=
  program.Issues
      (Within (fun record => ∃ raw, Makes deps (calls name) raw record)
        (Backed deps calls start schedule name)) ∨
    (∃ raw kind, presented (calls name) = some (raw, kind)) ∧
      program = (calls name).program deps

theorem stands_start :
    Stands deps calls start schedule name ((calls name).program deps) := by
  cases presents : presented (calls name) with
  | none => exact .inl (issuing_issues deps presents)
  | some shown => exact .inr ⟨⟨shown.1, shown.2, presents⟩, rfl⟩

/-- What a history allows, a longer one does. -/
theorem Backed.concat {id : String} {patch : UserPatch}
    (backed : Backed deps calls start schedule name id patch)
    (turn : Name × Time) :
    Backed deps calls start (schedule ++ [turn]) name id patch := by
  rcases backed with ⟨raw, kind, now, token, accepted, user, sets⟩
  exact ⟨raw, kind, now, token, accepted_concat_iff.mpr (.inl accepted), user,
    sets⟩

theorem Stands.concat
    (stands : Stands deps calls start schedule name program)
    (turn : Name × Time) :
    Stands deps calls start (schedule ++ [turn]) name program := by
  rcases stands with issues | initial
  · exact .inl (issues.imp
      (Within.imp (fun _ makes => makes) fun _ _ backed => backed.concat turn))
  · exact .inr initial

/-- A call inserts only a token of its own. -/
theorem Stands.makes {record : NewEmailToken}
    (stands : Stands deps calls start schedule name program)
    (waits : program.pending = some (.insertEmailToken record)) :
    ∃ raw, Makes deps (calls name) raw record := by
  rcases stands with issues | ⟨⟨raw, kind, presents⟩, rfl⟩
  · exact issues.pending waits
  · rcases presenting_program deps presents with ⟨next, whole, -⟩
    rw [whole] at waits
    cases waits

/-- A call consumes only the token that it presents. -/
theorem Stands.presents {hash : String} {kind : EmailTokenKind}
    (stands : Stands deps calls start schedule name program)
    (waits : program.pending =
      some (.auth (.emailTokenRepo (.consume hash kind)))) :
    ∃ raw, presented (calls name) = some (raw, kind) ∧
      hash = deps.sha256Sync raw := by
  rcases stands with issues | ⟨⟨raw, other, presents⟩, rfl⟩
  · exact (issues.pending waits).elim
  · rcases presenting_program deps presents with ⟨next, whole, -⟩
    rw [whole] at waits
    cases waits
    exact ⟨raw, presents, rfl⟩

/-- A call updates a user only after a token of the user was accepted. -/
theorem Stands.backed {id : String} {patch : UserPatch}
    (stands : Stands deps calls start schedule name program)
    (waits : program.pending = some (.auth (.userRepo (.update id patch)))) :
    Backed deps calls start schedule name id patch := by
  rcases stands with issues | ⟨⟨raw, kind, presents⟩, rfl⟩
  · exact issues.pending waits
  · rcases presenting_program deps presents with ⟨next, whole, -⟩
    rw [whole] at waits
    cases waits

/-- The call whose turn it is stands where its answer leaves it. -/
theorem Stands.resume {turn : Name × Time}
    (stands : Stands deps calls start schedule turn.1
      ((start.play (accountAdapter deps.toAuthServices) schedule).threads
        turn.1)) :
    Stands deps calls start (schedule ++ [turn]) turn.1
      (((start.play (accountAdapter deps.toAuthServices) schedule).threads
          turn.1).resume (accountAdapter deps.toAuthServices) turn.2
        (start.play (accountAdapter deps.toAuthServices) schedule).shared).1
      := by
  rcases stands.concat turn with issues | ⟨⟨raw, kind, presents⟩, initial⟩
  · exact .inl (issues.resume _ turn.2 _)
  · rcases presenting_program deps presents with
      ⟨next, whole, refused, goesOn⟩
    rw [initial, whole]
    have waits : (start.play (accountAdapter deps.toAuthServices)
        schedule).pending turn.1 = some (.auth (.emailTokenRepo
          (.consume (deps.sha256Sync raw) kind))) := by
      rw [Config.pending, initial, whole, Program.pending_call]
    refine .inl (Program.Issues.resume_call ?_)
    intro answer after answers
    cases answer with
    | none => exact .of_finished refused
    | some token =>
        have accepted : Accepted deps calls start (schedule ++ [turn]) turn.1
            raw kind turn.2 token :=
          accepted_concat_iff.mpr (.inr ⟨rfl, presents, waits, after, answers⟩)
        refine (goesOn token).imp
          (Within.imp (fun _ impossible => impossible.elim) ?_)
        rintro id patch ⟨user, sets⟩
        exact ⟨raw, kind, turn.2, token, accepted, user, sets⟩

end Stands

/-! ## Every schedule -/

section Schedules

variable [DecidableEq Name] {deps : AccountDeps} {calls : Name → EmailCall}
  {start : Config Name AccountPort AuthState Failure Unit}
  {schedule : List (Name × Time)}

variable (deps calls start schedule) in
/-- The table and the calls of a schedule are accounted for. -/
structure Tracks : Prop where
  ledger : Ledger deps calls start schedule
    (start.play (accountAdapter deps.toAuthServices)
      schedule).shared.emailTokens
  stands : ∀ name, Stands deps calls start schedule name
    ((start.play (accountAdapter deps.toAuthServices) schedule).threads name)

theorem Tracks.concat (tracks : Tracks deps calls start schedule)
    (turn : Name × Time) :
    Tracks deps calls start (schedule ++ [turn]) := by
  constructor
  · rw [Config.play_concat]
    have turned := token_turn deps.toAuthServices
      (start.play (accountAdapter deps.toAuthServices) schedule) turn
    generalize ((start.play (accountAdapter deps.toAuthServices)
      schedule).advance (accountAdapter deps.toAuthServices)
        turn).shared.emailTokens = rows at turned ⊢
    cases turned with
    | inserts record inserts fresh =>
        rcases (tracks.stands turn.1).makes inserts.1 with ⟨raw, makes⟩
        exact tracks.ledger.insert makes inserts fresh
    | consumes hash kind row consumes found =>
        rcases (tracks.stands turn.1).presents consumes.1 with
          ⟨raw, presents, rfl⟩
        exact tracks.ledger.consume presents consumes found
    | quiet noInsert noConsume =>
        exact tracks.ledger.quiet noInsert noConsume
  · rw [Config.play_concat]
    refine (Config.forall_threads_advance_iff fun name program =>
      Stands deps calls start (schedule ++ [turn]) name program).mpr
        ⟨(tracks.stands turn.1).resume, ?_⟩
    exact fun name _ => (tracks.stands name).concat turn

theorem tracks_play {state : AuthState} (unissued : state.emailTokens = [])
    (schedule : List (Name × Time)) :
    Tracks deps calls (begin deps calls state) schedule := by
  induction schedule using List.reverseRecOn with
  | nil =>
      refine ⟨?_, fun name => stands_start⟩
      have rows : ((begin deps calls state).play
          (accountAdapter deps.toAuthServices) []).shared.emailTokens = [] :=
        unissued
      rw [rows]
      exact
        { unique := unclashing_nil
          issued := nofun
          stored := fun _ _ _ issued =>
            (issued.2.elim fun _ => Config.performs_nil).elim
          issuedOnce := fun _ _ _ _ _ issued =>
            (issued.2.elim fun _ => Config.performs_nil).elim
          spent := fun _ _ _ _ _ accepted =>
            (Config.performs_nil accepted.2).elim
          acceptedOnce := fun _ _ _ _ _ _ _ _ _ accepted =>
            (Config.performs_nil accepted.2).elim }
  | append_singleton schedule turn induction => exact induction.concat turn

theorem passwordHash_patchUser {patch : UserPatch}
    (absent : patch.passwordHash = none) (now : Time) (user : User) :
    (PgUserRepository.patchUser now patch user).passwordHash =
      user.passwordHash := by
  simp only [PgUserRepository.patchUser, absent, Option.getD_none]

theorem emailVerifiedAt_patchUser {patch : UserPatch}
    (absent : patch.emailVerifiedAt = none) (now : Time) (user : User) :
    (PgUserRepository.patchUser now patch user).emailVerifiedAt =
      user.emailVerifiedAt := by
  simp only [PgUserRepository.patchUser, absent, Option.getD_none]

/-- Accepted tokens have been issued so, if the hash tells raw tokens apart. -/
theorem Tracks.issued (tracks : Tracks deps calls start schedule)
    (injective : Function.Injective deps.sha256Sync) {name : Name}
    {raw : String} {kind : EmailTokenKind} {now : Time} {token : EmailToken}
    (accepted : Accepted deps calls start schedule name raw kind now token) :
    ∃ issuer record, Issued deps calls start schedule issuer raw record ∧
      record.kind = kind ∧ record.userId = token.userId ∧
        now < record.expiresAt := by
  rcases tracks.ledger.spent name raw kind now token accepted with
    ⟨row, member, hash, isKind, user, inTime, -⟩
  rcases tracks.ledger.issued row member with
    ⟨issuer, issuedRaw, record, issued, holds⟩
  have sameHash : row.tokenHash = record.tokenHash :=
    congrArg EmailToken.tokenHash holds
  have same : issuedRaw = raw := injective <|
    issued.1.tokenHash.symm.trans (sameHash.symm.trans hash)
  subst same
  rw [holds] at isKind user inTime
  exact ⟨issuer, record, issued, isKind, user, inTime⟩

/-- Two issues of a raw token agree on the record. -/
theorem Tracks.record_eq (tracks : Tracks deps calls start schedule)
    {raw : String} {issuer other : Name} {record otherRecord : NewEmailToken}
    (issued : Issued deps calls start schedule issuer raw record)
    (otherIssued : Issued deps calls start schedule other raw otherRecord) :
    record = otherRecord := by
  rcases tracks.ledger.stored issuer raw record issued with
    ⟨row, member, holds⟩
  rcases tracks.ledger.stored other raw otherRecord otherIssued with
    ⟨otherRow, otherMember, otherHolds⟩
  have hash : row.tokenHash = otherRow.tokenHash := by
    rw [holds, otherHolds]
    exact issued.1.tokenHash.trans otherIssued.1.tokenHash.symm
  cases tracks.ledger.unique.eq_of_key member otherMember hash
  have rows := holds.symm.trans otherHolds
  cases record
  cases otherRecord
  cases rows
  rfl

/-- A change of a field that only one kind may set is due to that kind. -/
theorem Tracks.entitled (tracks : Tracks deps calls start schedule)
    (injective : Function.Injective deps.sha256Sync)
    {Value : Type} {field : User → Value} {kind : EmailTokenKind}
    (keeps : ∀ other patch now user, OnlySets other patch → other ≠ kind →
      field (PgUserRepository.patchUser now patch user) = field user)
    {id : String} {turn : Name × Time}
    (changes : Changes deps start schedule field id turn) :
    Entitled deps calls start schedule kind id turn.1 := by
  rcases changes with ⟨user, stored, changed⟩
  rw [Config.play_concat] at changed
  have effect := (start.play (accountAdapter deps.toAuthServices)
    schedule).advance_effect (accountAdapter deps.toAuthServices) turn
  generalize ((start.play (accountAdapter deps.toAuthServices)
    schedule).advance (accountAdapter deps.toAuthServices) turn).shared =
      after at effect changed
  cases effect with
  | idle finished => exact absurd (congrArg _ stored) changed
  | failed op error waits fails => exact absurd (congrArg _ stored) changed
  | answered op answer after waits answers =>
      rcases userOf_answered stored answers with
        same | ⟨patch, rfl, patched⟩
      · exact absurd (congrArg _ same) changed
      · rcases (tracks.stands turn.1).backed waits with
          ⟨raw, other, now, token, accepted, user, sets⟩
        rw [patched, Option.map_some] at changed
        have isKind : other = kind := by
          by_contra different
          exact changed (congrArg some (keeps other patch turn.2 _ sets
            different))
        subst isKind
        rcases tracks.issued injective accepted with
          ⟨issuer, record, issued, sameKind, sameUser, -⟩
        exact ⟨raw, now, token, issuer, record, accepted, issued, sameKind,
          sameUser.trans user.symm⟩

/--
Each issued raw token is accepted by at most one call, for the kind and the
user it was issued for and before it expires; and only such a call changes the
password or the verification time of a stored user.
-/
theorem email_tokens_safe (deps : AccountDeps)
    (injective : Function.Injective deps.sha256Sync)
    (calls : Name → EmailCall) (state : AuthState)
    (unissued : state.emailTokens = []) (schedule : List (Name × Time)) :
    TokensSafe deps calls (begin deps calls state) schedule := by
  have tracks : Tracks deps calls (begin deps calls state) schedule :=
    tracks_play unissued schedule
  constructor
  · intro raw issuer other record otherRecord issued otherIssued
    exact ⟨tracks.ledger.issuedOnce raw issuer other record otherRecord issued
      otherIssued, tracks.record_eq issued otherIssued⟩
  · exact tracks.ledger.acceptedOnce
  · intro name raw kind now token accepted
    exact tracks.issued injective accepted
  · intro id turn changes
    refine tracks.entitled injective ?_ changes
    intro other patch now user sets different
    cases other with
    | verify => exact passwordHash_patchUser sets now user
    | reset => exact absurd rfl different
  · intro id turn changes
    refine tracks.entitled injective ?_ changes
    intro other patch now user sets different
    cases other with
    | verify => exact absurd rfl different
    | reset => exact emailVerifiedAt_patchUser sets now user

end Schedules

/-! ## A sample run -/

/-- A raw token: 32 bytes, all of them zero. -/
def sampleRaw : String := "AAAAAAAAAAAAAAAAAAAAAAAAAAAAAAAAAAAAAAAAAAA"

/-- An injective hash that gives the sample token its SHA-256 digest. -/
def sampleHash : Equiv.Perm String :=
  Equiv.swap sampleRaw
    "0f007385b6f9d4b7eeb2748605afe1a984a0a3bfa3f014d09e2a784ce9e5cd1a"

def sampleAccountDeps : AccountDeps where
  toSessionDeps := { Sessions.sampleDeps 0 with sha256Sync := sampleHash }
  toLowerCase := id
  trim := id
  emailVerifyUrlBase := "http://localhost:5173/verify"
  emailResetUrlBase := "http://localhost:5173/reset"

/-- A reset is requested and confirmed; its token verifies no address. -/
def sampleCalls : Fin 3 → EmailCall
  | 0 => .requestPasswordReset "ana@example.com"
      { raw := sampleRaw, id := "email-token-1", now := 0 }
  | 1 => .confirmPasswordReset sampleRaw "new password" "salt"
  | 2 => .confirmEmailVerification sampleRaw 0

def sampleStart : Config (Fin 3) AccountPort AuthState Failure Unit :=
  begin sampleAccountDeps sampleCalls
    { users := [Sessions.sampleUser], refreshTokens := [], emailTokens := [] }

def sampleSchedule : List (Fin 3 × Time) :=
  [(0, 0), (0, 1), (2, 2), (1, 3), (1, 4), (1, 5), (2, 6)]

theorem email_tokens_safe_reset :
    TokensSafe sampleAccountDeps sampleCalls sampleStart sampleSchedule ∧
      (sampleStart.play (accountAdapter sampleAccountDeps.toAuthServices)
        sampleSchedule).shared.users =
          [{ Sessions.sampleUser with
            passwordHash := "saltnew password", updatedAt := 5 }] :=
  ⟨email_tokens_safe sampleAccountDeps sampleHash.injective sampleCalls _ rfl
    sampleSchedule, by decide +kernel⟩

end ChatBackend.Auth.EmailTokenSafety
