import ChatBackend.Auth.SessionOrigins
import ChatBackend.Http.GuardedRoutes
import Mathlib.Logic.Encodable.Basic

/-!
# Access tokens

An access token is signed and carries its own end, and no table knows of it, so
a reset of the password leaves it good until then.  What is shown here is how
long: once the lifetime of an access token has passed since a reset, a guarded
route is entered as a user only with a token of a session that was opened after
the reset.

Of `jose` is used that a signature is checked against what was signed.  That
nobody else can sign is an assumption about the token that is presented.
-/

namespace ChatBackend.Auth.AccessTokens

open Effects
open Relational
open Transition
open ChatBackend.Auth.TokenStore
open ChatBackend.Auth.TokenStore.PgRefreshTokenRepository
open ChatBackend.Auth.Sessions
open ChatBackend.Auth.EmailTokens
open ChatBackend.Auth.Accounts
open ChatBackend.Auth.AccountRefinement
open ChatBackend.Auth.SessionOrigins
open ChatBackend.Auth.SessionRefinement (run_createSession)
open ChatBackend.Auth.TokenChains (leaves_step)

/-! ## `JoseTokenSigner` -/

/-- The registered claims of a token; its times are in seconds. -/
structure JwtPayload where
  sub : Option String
  jti : Option String
  iat : Option Int
  exp : Option Int
  nbf : Option Int
deriving DecidableEq, Repr

/-- What `jose` does with a secret: signing, and opening what is signed. -/
structure Jose where
  sign : String → JwtPayload → String
  /-- The payload of a token whose signature is that of the secret. -/
  opened : String → String → Option JwtPayload
  opened_sign : ∀ secret payload,
    opened secret (sign secret payload) = some payload

/-- `Math.floor(ms / 1000)` -/
def seconds (now : Time) : Int := now / 1000

/-- The time claims that are given are checked as well. -/
def Jose.jwtVerify (jose : Jose) (secret token : String) (now : Time) :
    Option JwtPayload :=
  (jose.opened secret token).filter fun payload =>
    payload.nbf.all (fun nbf => nbf ≤ seconds now) &&
      payload.exp.all fun exp => seconds now < exp

structure JoseTokenSigner where
  jose : Jose
  accessSecret : String
  accessTtlSec : Int

namespace JoseTokenSigner

def payload (signer : JoseTokenSigner) (claims : AccessTokenClaims)
    (now : Time) : JwtPayload where
  sub := some claims.sub
  jti := some claims.jti
  iat := some (seconds now)
  exp := some (seconds now + signer.accessTtlSec)
  nbf := none

def signAccess (signer : JoseTokenSigner) (claims : AccessTokenClaims)
    (now : Time) : String :=
  signer.jose.sign signer.accessSecret (signer.payload claims now)

def verifyAccess (signer : JoseTokenSigner) (token : String) (now : Time) :
    Option AccessTokenClaims :=
  match signer.jose.jwtVerify signer.accessSecret token now with
  | none => none
  | some payload =>
      match payload.sub, payload.jti with
      | some sub, some jti => some { sub, jti }
      | _, _ => none

variable {signer : JoseTokenSigner} {claims : AccessTokenClaims}
  {signed now : Time} {read : AccessTokenClaims}

/-- A signed token is read back until its lifetime has passed. -/
theorem verifyAccess_signAccess :
    signer.verifyAccess (signer.signAccess claims signed) now =
      if seconds now < seconds signed + signer.accessTtlSec then
        some { sub := claims.sub, jti := claims.jti }
      else none := by
  unfold verifyAccess Jose.jwtVerify signAccess
  rw [signer.jose.opened_sign]
  by_cases inTime : seconds now < seconds signed + signer.accessTtlSec
  · rw [if_pos inTime, Option.filter_some, if_pos (by simpa [payload])]
    rfl
  · rw [if_neg inTime, Option.filter_some,
      if_neg (by simpa [payload] using inTime)]

/-- A signed token that is accepted is one of its subject, in its lifetime. -/
theorem of_verifyAccess_signAccess
    (verified :
      signer.verifyAccess (signer.signAccess claims signed) now = some read) :
    read.sub = claims.sub ∧
      seconds now < seconds signed + signer.accessTtlSec := by
  rw [verifyAccess_signAccess] at verified
  split at verified
  · cases verified
    exact ⟨rfl, ‹_›⟩
  · cases verified

end JoseTokenSigner

/-! ## Tokens that are handed out -/

/-- The access token of an answer. -/
def handsOut : Except Failure AccountsReply → Option String
  | .ok (.signedIn registration) => some registration.accessToken
  | .ok (.refreshed session) => some session.accessToken
  | _ => none

/-- The access token is signed for the user of an unrevoked refresh token. -/
def Rooted (deps : AccountsDeps) (now : Time) (accessToken : String)
    (rows : List RefreshToken) : Prop :=
  ∃ row ∈ rows, row.revokedAt = none ∧ ∃ jti,
    accessToken = deps.signJwt { sub := row.userId, jti } now

section Calls

variable {deps : AccountsDeps} {now : Time} {state : AccountsState}

theorem rooted_createSession (draws : SessionDraws) (userId : String)
    (sessionMeta : Option SessionMeta) :
    (auth (createSession deps.toSessionDeps draws userId sessionMeta)).Ensures
      (mailingAdapter deps.toAuthServices) now state fun outcome after =>
        ∀ session, outcome = .ok session →
          Rooted deps now session.accessToken after.tables.refreshTokens := by
  rw [Program.Ensures, run_auth]
  cases accepted : insertViolation state.tables.users
      state.tables.refreshTokens
      (rootToken deps.toSessionDeps draws userId sessionMeta) with
  | none =>
      rw [run_createSession accepted]
      rintro session ⟨⟩
      exact ⟨_, List.mem_append_right _ (List.mem_singleton_self _), rfl,
        draws.jti, rfl⟩
  | some cause =>
      rw [createSession, refreshTokenRepo.insert, Program.perform_bind,
        Program.run_call_error _ (authAdapter_insert_refused accepted)]
      exact fun session ended => by cases ended

theorem rooted_login (input : LoginUser.Input) (draws : SessionDraws) :
    (LoginUser.execute deps input draws).Ensures (accountsAdapter deps) now
      state fun outcome after => ∀ registration, outcome = .ok registration →
        Rooted deps now registration.accessToken
          after.tables.refreshTokens := by
  unfold LoginUser.execute
  refine Program.Ensures.call
    (fun error _ registration ended => by cases ended) ?_
  intro answer after answered
  obtain ⟨-, rfl⟩ := mailingAdapter_findUserByEmail_ok answered
  cases answer with
  | none => exact fun registration ended => by cases ended
  | some user =>
      refine Program.Ensures.call_ok rfl ?_
      dsimp only [Program.bind]
      split
      · refine (ensures_account (rooted_createSession draws user.id
          (some ⟨input.userAgent, input.ip⟩))).bind ?_ ?_
        · exact fun error after _ registration ended => by cases ended
        · rintro session after rooted registration ⟨⟩
          exact rooted session rfl
      · exact fun registration ended => by cases ended

theorem rooted_register (input : RegisterUser.Input)
    (draws : RegisterUser.Draws) :
    (account (RegisterUser.execute deps.toAccountDeps input draws)).Ensures
      (accountsAdapter deps) now state fun outcome after =>
        ∀ registration, outcome = .ok registration →
          Rooted deps now registration.accessToken
            after.tables.refreshTokens := by
  refine ensures_account ?_
  unfold RegisterUser.execute
  refine Program.Ensures.call
    (fun error _ registration ended => by cases ended) ?_
  intro answer after answered
  obtain ⟨-, rfl⟩ := mailingAdapter_findUserByEmail_ok answered
  cases answer with
  | some user => exact fun registration ended => by cases ended
  | none =>
      refine Program.Ensures.call_ok (mailingAdapter_auth rfl) ?_
      refine Program.Ensures.call ?_ ?_
      · exact fun _ _ registration ended => by cases ended
      · intro user created answered
        refine (rooted_createSession draws.session draws.userId
          (some ⟨input.userAgent, input.ip⟩)).bind ?_ ?_
        · exact fun error after _ registration ended => by cases ended
        · rintro session after rooted registration ⟨⟩
          exact rooted session rfl

/-- The mail of a registration leaves the refresh tokens as they are. -/
theorem refreshTokens_sendVerificationEmail (draws : EmailDraws)
    (userId email : String) :
    ((account (RegisterUser.sendVerificationEmail deps.toAccountDeps draws
      userId email)).run (accountsAdapter deps) now
        state).2.tables.refreshTokens = state.tables.refreshTokens := by
  have mails : (account (RegisterUser.sendVerificationEmail deps.toAccountDeps
      draws userId email)).Ensures (accountsAdapter deps) now state
        fun _ after =>
          after.tables.refreshTokens = state.tables.refreshTokens := by
    refine ensures_account ?_
    unfold RegisterUser.sendVerificationEmail
    refine Program.Ensures.call (fun _ _ => rfl) ?_
    intro answer inserted answered
    simp only [mailingAdapter, accountAdapter] at answered
    split at answered
    · cases answered
    · cases answered
      exact rfl
  exact mails

/-- A call whose replies have no access token hands out none. -/
theorem handsOut_eq_none {call : AccountsCall} {Result : Type}
    {program : AccountsProgram Result} {reply : Result → AccountsReply}
    (quiet : call.background deps = .done ())
    (isProgram : call.program deps = reply <$> program)
    (without : ∀ result, handsOut (.ok (reply result)) = none) :
    handsOut ((accountsMachine deps).step state (call, now)).1 = none := by
  rw [step_eq_run quiet, isProgram, Program.run_map]
  dsimp only
  cases (program.run (accountsAdapter deps) now state).1 with
  | error error => rfl
  | ok result => exact without result

theorem rooted_of_login {input : LoginUser.Input} {draws : SessionDraws}
    {token : String}
    (hands : handsOut ((accountsMachine deps).step state
      (.login input draws, now)).1 = some token) :
    Rooted deps now token
      (step deps state (.login input draws, now)).tables.refreshTokens := by
  have rooted : (LoginUser.execute deps input draws).Ensures _ now state _ :=
    rooted_login input draws
  unfold Program.Ensures at rooted
  rw [step, step_eq_run rfl]
  rw [step_eq_run rfl] at hands
  dsimp only [AccountsCall.program] at hands ⊢
  rw [Program.run_map] at hands ⊢
  dsimp only at hands ⊢
  cases ended : ((LoginUser.execute deps input draws).run
      (accountsAdapter deps) now state).1 with
  | error error =>
      rw [ended] at hands
      cases hands
  | ok registration =>
      rw [ended] at hands
      cases hands
      exact rooted registration ended

theorem rooted_of_register {input : RegisterUser.Input}
    {draws : RegisterUser.Draws} {token : String}
    (hands : handsOut ((accountsMachine deps).step state
      (.register input draws, now)).1 = some token) :
    Rooted deps now token
      (step deps state (.register input draws, now)).tables.refreshTokens := by
  have rooted : (account (RegisterUser.execute deps.toAccountDeps input
      draws)).Ensures _ now state _ := rooted_register input draws
  unfold Program.Ensures at rooted
  unfold step
  simp only [accountsMachine, AccountsCall.program, Program.run_map]
    at hands ⊢
  rcases ran : (account (RegisterUser.execute deps.toAccountDeps input
      draws)).run (accountsAdapter deps) now state with ⟨outcome, after⟩
  rw [ran] at rooted hands
  cases outcome with
  | error error => cases hands
  | ok registration =>
      cases hands
      dsimp only [Except.map, AccountsCall.background]
      rw [refreshTokens_sendVerificationEmail]
      exact rooted registration rfl

theorem refreshed_of_handsOut {rawToken : String}
    {sessionMeta : Option SessionMeta} {draws : SessionDraws} {token : String}
    (hands : handsOut ((accountsMachine deps).step state
      (.refresh rawToken sessionMeta draws, now)).1 = some token) :
    ∃ session, ((accountsMachine deps).step state
        (.refresh rawToken sessionMeta draws, now)).1 =
          .ok (.refreshed session) ∧ session.accessToken = token := by
  rw [step_eq_run rfl] at hands ⊢
  dsimp only [AccountsCall.program] at hands ⊢
  rw [Program.run_map] at hands ⊢
  dsimp only at hands ⊢
  cases ended : ((account (auth (RefreshSession.execute deps.toSessionDeps
      draws rawToken sessionMeta))).run (accountsAdapter deps) now
        state).1 with
  | error error =>
      rw [ended] at hands
      cases hands
  | ok session =>
      rw [ended] at hands
      exact ⟨session, rfl, Option.some.inj hands⟩

end Calls

/-! ## Every run -/

section Runs

variable {deps : AccountsDeps} {history : List (AccountsCall × Time)}
  {label : AccountsCall × Time} {token : String}

/-- The token is signed for a user who has signed in with the password that is
in force and has not reset it since. -/
def Standing (deps : AccountsDeps) (history : List (AccountsCall × Time))
    (signed : Time) (token : String) (user : User) : Prop :=
  user ∈ (reached deps history).tables.users ∧
    (∃ jti, token = deps.signJwt { sub := user.id, jti } signed) ∧
      ∃ familyId,
        SignedInSince deps history user.id familyId user.passwordHash

theorem standing_of_rooted {signed : Time}
    (rooted : Rooted deps signed token
      (reached deps history).tables.refreshTokens) :
    ∃ user, Standing deps history signed token user := by
  obtain ⟨row, stored, unrevoked, jti, isToken⟩ := rooted
  obtain ⟨user, known, isUser, since⟩ :=
    (backed_reached history).origin row stored unrevoked
  exact ⟨user, known, ⟨jti, isUser ▸ isToken⟩, row.familyId, since⟩

/-- A refresh that is answered hands out a standing token. -/
theorem standing_of_refreshed {rawToken : String}
    {sessionMeta : Option SessionMeta} {draws : SessionDraws} {now : Time}
    {session : Session}
    (refreshed : ((accountsMachine deps).step (reached deps history)
      (.refresh rawToken sessionMeta draws, now)).1 =
        .ok (.refreshed session)) :
    ∃ user, Standing deps
      (history ++ [(.refresh rawToken sessionMeta draws, now)]) now
      session.accessToken user := by
  let sessionCall : SessionCall := .refresh draws rawToken sessionMeta
  obtain ⟨presented, live, -, handedOut, -⟩ := handedOut_of_refreshed refreshed
  obtain ⟨user, known, isUser, since⟩ :=
    (backed_reached history).origin live handedOut.stored handedOut.unrevoked
  have sameUsers : (step deps (reached deps history)
      (.refresh rawToken sessionMeta draws, now)).tables.users =
        (reached deps history).tables.users := by
    rw [step_session sessionCall rfl rfl rfl]
    exact (leaves_step deps.toSessionDeps _ sessionCall now).1
  refine ⟨user, ?_, ⟨draws.jti, ?_⟩, live.familyId, ?_⟩
  · unfold reached at known sameUsers ⊢
    rw [run_concat, sameUsers]
    exact known
  · rw [isUser]
    exact handedOut.accessToken
  · refine since_concat.mpr (.inr ⟨since, not_renews ?_⟩)
    exact fun _ _ _ => AccountsCall.noConfusion

/-- A token that is handed out is standing at that moment. -/
theorem standing_of_handsOut
    (hands : handsOut ((accountsMachine deps).step (reached deps history)
      label).1 = some token) :
    ∃ user, Standing deps (history ++ [label]) label.2 token user := by
  have reachedNext : reached deps (history ++ [label]) =
      step deps (reached deps history) label := run_concat _ _ _ _
  have silent (none : handsOut ((accountsMachine deps).step
      (reached deps history) label).1 = none) :
      ∃ user, Standing deps (history ++ [label]) label.2 token user := by
    rw [none] at hands
    cases hands
  obtain ⟨call, now⟩ := label
  cases call with
  | register input draws =>
      exact standing_of_rooted (reachedNext ▸ rooted_of_register hands)
  | login input draws =>
      exact standing_of_rooted (reachedNext ▸ rooted_of_login hands)
  | refresh rawToken sessionMeta draws =>
      obtain ⟨session, refreshed, rfl⟩ := refreshed_of_handsOut hands
      exact standing_of_refreshed refreshed
  | logout rawToken => exact silent (handsOut_eq_none rfl rfl fun _ => rfl)
  | me userId => exact silent (handsOut_eq_none rfl rfl fun _ => rfl)
  | updateProfile userId input =>
      exact silent (handsOut_eq_none rfl rfl fun _ => rfl)
  | requestEmailVerification userId draws =>
      exact silent (handsOut_eq_none rfl rfl fun _ => rfl)
  | confirmEmailVerification rawToken verifiedAt =>
      exact silent (handsOut_eq_none rfl rfl fun _ => rfl)
  | requestPasswordReset email draws =>
      exact silent (handsOut_eq_none rfl rfl fun _ => rfl)
  | confirmPasswordReset rawToken newPassword salt =>
      exact silent (handsOut_eq_none rfl rfl fun _ => rfl)

/-- The calls are listed in the order of their times. -/
def Ordered (history : List (AccountsCall × Time)) : Prop :=
  history.Pairwise fun earlier later => earlier.2 ≤ later.2

/-- The token is one that a call of the history has handed out. -/
def Issued (deps : AccountsDeps) (history : List (AccountsCall × Time))
    (token : String) : Prop :=
  Occurs (step deps) (fun state label =>
    handsOut ((accountsMachine deps).step state label).1 = some token)
      noAccounts history

/-- The user has signed in during the calls that follow a reset, with the
password that is in force at their end, and has not reset it again. -/
def SignedInAnew (deps : AccountsDeps) (before : List (AccountsCall × Time))
    (reset : AccountsCall × Time) (following : List (AccountsCall × Time))
    (userId : String) : Prop :=
  ∃ user ∈ (reached deps (before ++ reset :: following)).tables.users,
    user.id = userId ∧ ∃ familyId,
      Since (step deps) (SignsIn deps userId familyId user.passwordHash)
        (fun state label => ¬ Renews deps userId state label)
        (reached deps (before ++ [reset])) following

theorem signedInAnew_of_standing {before following : List (AccountsCall × Time)}
    {reset : AccountsCall × Time} {signed : Time} {user : User}
    (renews : Renews deps user.id (reached deps before) reset)
    (standing : Standing deps (before ++ reset :: following) signed token
      user) : SignedInAnew deps before reset following user.id := by
  obtain ⟨known, -, familyId, since⟩ := standing
  refine ⟨user, known, rfl, familyId, since.after_break ?_ ?_⟩
  · rintro ⟨-, answer⟩
    have done : ((accountsMachine deps).step (run (step deps) noAccounts before)
        reset).1 = .ok .done := renews.answer
    rw [done] at answer
    exact answer
  · exact not_not_intro renews

theorem expired_of_late {signed reset now ttl : Int} (early : signed ≤ reset)
    (late : reset + ttl * 1000 ≤ now) :
    ¬ now / 1000 < signed / 1000 + ttl := by
  omega

/-- A token that is accepted late after a reset was handed out after it. -/
theorem signedInAnew_of_verified {signer : JoseTokenSigner}
    (signs : deps.signJwt = signer.signAccess)
    {before after : List (AccountsCall × Time)}
    {reset : AccountsCall × Time} {now : Time} {claims : AccessTokenClaims}
    (renews : Renews deps claims.sub (reached deps before) reset)
    (ordered : Ordered (before ++ reset :: after))
    (late : reset.2 + signer.accessTtlSec * 1000 ≤ now)
    (issued : Issued deps (before ++ reset :: after) token)
    (verified : signer.verifyAccess token now = some claims) :
    ∃ following rest, after = following ++ rest ∧
      SignedInAnew deps before reset following claims.sub := by
  obtain ⟨earlier, issuing, rest, split, hands⟩ := issued
  obtain ⟨user, standing⟩ := standing_of_handsOut hands
  obtain ⟨jti, isToken⟩ := standing.2.1
  rw [isToken, signs] at verified
  obtain ⟨isUser, inTime⟩ :=
    JoseTokenSigner.of_verifyAccess_signAccess verified
  dsimp only at isUser
  have afterReset : ¬ issuing.2 ≤ reset.2 := fun early =>
    expired_of_late early late inTime
  rcases List.append_eq_append_iff.mp split with
    ⟨middle, rfl, parts⟩ | ⟨middle, rfl, parts⟩
  · cases middle with
    | nil =>
        obtain ⟨rfl, -⟩ := List.cons.inj parts
        exact absurd le_rfl afterReset
    | cons head following =>
        obtain ⟨rfl, rfl⟩ := List.cons.inj parts
        refine ⟨following ++ [issuing], rest, ?_, ?_⟩
        · rw [List.append_assoc, List.singleton_append]
          rfl
        · rw [List.append_assoc, List.cons_append] at standing
          rw [isUser] at renews ⊢
          exact signedInAnew_of_standing renews standing
  · cases middle with
    | nil =>
        obtain ⟨rfl, -⟩ := List.cons.inj parts
        exact absurd le_rfl afterReset
    | cons head middle =>
        obtain ⟨rfl, -⟩ := List.cons.inj parts
        refine absurd ?_ afterReset
        exact (List.pairwise_append.mp ordered).2.2 issuing
          (List.mem_append_right _ List.mem_cons_self) reset List.mem_cons_self

/-! ## Guarded routes -/

section Routes

variable {World : Type} {env : Http.Env} {dependencies : Http.Dependencies}
  {later : Time} {handler : Http.RouteHandler World} {req : Http.Request}
  {exchange handled : Http.Exchange World}

/-- The handler is entered as the subject of an accepted token. -/
theorem accepted_of_entered
    (entered : (Http.settleGuards env dependencies later handler req
      exchange).entered[2]? = some handled) :
    ∃ token claims, Http.bearerToken req = some token ∧
      dependencies.verifyAccess token = .ok (some claims) ∧
        handled.ctx.userId = some claims.sub := by
  rw [Http.settleGuards_eq, Http.evaluate_authMiddleware] at entered
  cases given : Http.bearerToken req with
  | none =>
      rw [given] at entered
      cases entered
  | some token =>
      rw [given] at entered
      dsimp only at entered
      rcases verified : dependencies.verifyAccess token with
        message | _ | claims
      · rw [verified] at entered
        cases entered
      · rw [verified] at entered
        cases entered
      · rw [verified] at entered
        dsimp only at entered
        refine ⟨token, claims, rfl, verified, ?_⟩
        rw [settle, Http.evaluate_rateLimit] at entered
        cases consumed : dependencies.consume _ env.rateLimitDefaultMax
            env.rateLimitDefaultWindow with
        | error message =>
            rw [consumed] at entered
            cases entered
        | ok result =>
            rw [consumed] at entered
            dsimp only at entered
            split at entered
            · cases entered
            · cases entered
              rfl

/-- The dependencies of the guards while a request is served at `now`. -/
def JoseTokenSigner.guarding (signer : JoseTokenSigner) (now : Time)
    (consume : String → Int → Int →
      Except String Http.RateLimit.RateLimitResult) : Http.Dependencies where
  verifyAccess token := .ok (signer.verifyAccess token now)
  consume := consume

end Routes

end Runs

/-! ## A sample signer -/

section Sample

/-- A text with every character marked, and an end. -/
def marked : List Char → List Char
  | [] => ['.']
  | letter :: rest => '+' :: letter :: marked rest

def unmarked : List Char → Option (List Char × List Char)
  | '.' :: rest => some ([], rest)
  | '+' :: letter :: rest =>
      (unmarked rest).map fun read => (letter :: read.1, read.2)
  | _ => none

theorem unmarked_marked (text rest : List Char) :
    unmarked (marked text ++ rest) = some (text, rest) := by
  induction text with
  | nil => rfl
  | cons letter text induction =>
      simp only [marked, List.cons_append, unmarked, induction]
      rfl

def written : Option String → List Char
  | none => ['-']
  | some text => '+' :: marked text.toList

def readField : List Char → Option (Option String × List Char)
  | '-' :: rest => some (none, rest)
  | '+' :: rest =>
      (unmarked rest).map fun read => (some (String.ofList read.1), read.2)
  | _ => none

theorem readField_written (field : Option String) (rest : List Char) :
    readField (written field ++ rest) = some (field, rest) := by
  cases field with
  | none => rfl
  | some text =>
      simp only [written, List.cons_append, readField, unmarked_marked,
        Option.map_some, String.ofList_toList]

/-- A time as a text of as many strokes as its code says. -/
def strokes (time : Int) : String :=
  String.ofList (List.replicate (Encodable.encode time) '|')

def readStrokes (text : String) : Option Int :=
  Encodable.decode text.toList.length

theorem readStrokes_strokes (time : Int) :
    readStrokes (strokes time) = some time := by
  unfold readStrokes strokes
  rw [String.toList_ofList, List.length_replicate, Encodable.encodek]

def sampleJose : Jose where
  sign _ payload := String.ofList
    (written payload.sub ++ (written payload.jti ++
      (written (payload.iat.map strokes) ++
        (written (payload.exp.map strokes) ++
          (written (payload.nbf.map strokes) ++ [])))))
  opened _ token := do
    let (sub, rest) ← readField token.toList
    let (jti, rest) ← readField rest
    let (iat, rest) ← readField rest
    let (exp, rest) ← readField rest
    let (nbf, _) ← readField rest
    return ⟨sub, jti, iat.bind readStrokes, exp.bind readStrokes,
      nbf.bind readStrokes⟩
  opened_sign _ payload := by
    have read (time : Option Int) :
        (time.map strokes).bind readStrokes = time := by
      cases time with
      | none => rfl
      | some time => exact readStrokes_strokes time
    simp only [String.toList_ofList, readField_written, Option.bind_eq_bind,
      Option.bind_some, read]
    rfl

/-- Access tokens are good for two seconds. -/
def sampleSigner : JoseTokenSigner where
  jose := sampleJose
  accessSecret := "secret"
  accessTtlSec := 2

def signingDeps : AccountsDeps :=
  { AccountRefinement.sampleDeps with signJwt := sampleSigner.signAccess }

/-- Ana registers and asks for a link. -/
def sampleBefore : List (AccountsCall × Time) :=
  sampleRun.take 2

def sampleReset : AccountsCall × Time :=
  (.confirmPasswordReset "link-2" "second password" "$salt-2$", 2000)

/-- Ana tries the old password and the old session, then the new password. -/
def sampleAfter : List (AccountsCall × Time) :=
  sampleRun.drop 3

def sampleToken : String :=
  sampleSigner.signAccess { sub := "user-1", jti := "jti-3" } 5000

def sampleRequest : Http.Request where
  method := "GET"
  headers := [("authorization", "Bearer " ++ sampleToken)]

def sampleConsume (_ : String) (max windowSec : Int) :
    Except String Http.RateLimit.RateLimitResult :=
  .ok { allowed := true, remaining := max - 1, resetAt := windowSec }

/-- Every layer gets its turns until it calls the next one. -/
def sampleSchedule : List Nat :=
  [0, 0, 0, 1, 1, 1, 2, 2, 2, 3, 3, 3, 4, 4, 4, 5, 5, 5]

end Sample

end ChatBackend.Auth.AccessTokens
