import ChatBackend.Auth.TokenStore

/-!
# Sessions

The use cases that open, rotate and revoke refresh tokens.  A use case is a
program over the authentication port.  What it reads synchronously from its
surroundings (the clock, the id generator, the random bytes of a new refresh
token) is drawn before it starts and handed to it as `SessionDraws`; nothing is
assumed about the draws here.
-/

namespace ChatBackend.Auth.Sessions

open Effects
open ChatBackend.Auth.TokenStore

/-! ## Dependencies -/

/-- The services and settings of the session use cases. -/
structure SessionDeps extends AuthServices where
  refreshTtlSec : Int
  refreshPepper : String
  graceWindowSec : Int

/-- What one call reads from the clock and the generators. -/
structure SessionDraws where
  now : Time
  raw : String
  familyId : String
  id : String
  jti : String
deriving DecidableEq, Repr

structure SessionMeta where
  userAgent : Option HeaderText
  ip : Option String
deriving DecidableEq, Repr

/-- The token pair a successful call returns. -/
structure Session where
  accessToken : String
  refreshToken : String
deriving DecidableEq, Repr

/-- The hash under which a raw refresh token is stored. -/
def SessionDeps.hashRefresh (deps : SessionDeps) (raw : String) : String :=
  deps.sha256Sync (deps.refreshPepper ++ raw)

/-- The expiry of a token made at the given time. -/
def SessionDeps.expiry (deps : SessionDeps) (now : Time) : Time :=
  now + deps.refreshTtlSec * 1000

namespace refreshTokenRepo

def insert (record : NewRefreshToken) : AuthProgram Unit :=
  AuthOp.await (.refreshTokenRepo (.insert record))

def findById (id : String) : AuthProgram (Option RefreshToken) :=
  AuthOp.await (.refreshTokenRepo (.findById id))

def findByHash (hash : String) : AuthProgram (Option RefreshToken) :=
  AuthOp.await (.refreshTokenRepo (.findByHash hash))

def markRevoked (id : String) (replacedById : Option String) :
    AuthProgram Unit :=
  AuthOp.await (.refreshTokenRepo (.markRevoked id replacedById))

def revokeFamily (familyId : String) : AuthProgram Unit :=
  AuthOp.await (.refreshTokenRepo (.revokeFamily familyId))

def revokeAllForUser (userId : String) : AuthProgram Unit :=
  AuthOp.await (.refreshTokenRepo (.revokeAllForUser userId))

end refreshTokenRepo

def tokenSigner.signAccess (claims : AccessTokenClaims) :
    AuthProgram String :=
  AuthOp.await (.signAccess claims)

def passwordHasher.hash (plain salt : String) : AuthProgram String :=
  AuthOp.await (.hashPassword plain salt)

def emailTokenRepo.consume (hash : String) (kind : EmailTokenKind) :
    AuthProgram (Option EmailToken) :=
  AuthOp.await (.emailTokenRepo (.consume hash kind))

def userRepo.update (id : String) (patch : UserPatch) : AuthProgram User :=
  AuthOp.await (.userRepo (.update id patch))

/-! ## `createSession` -/

/-- The row `createSession` inserts: the root of a new family. -/
def rootToken (deps : SessionDeps) (draws : SessionDraws) (userId : String)
    (sessionMeta : Option SessionMeta) : NewRefreshToken where
  id := draws.id
  userId := userId
  tokenHash := deps.hashRefresh draws.raw
  familyId := draws.familyId
  parentId := none
  replacedById := none
  userAgent := sessionMeta.bind SessionMeta.userAgent
  ip := sessionMeta.bind SessionMeta.ip
  expiresAt := deps.expiry draws.now
  revokedAt := none

def createSession (deps : SessionDeps) (draws : SessionDraws)
    (userId : String) (sessionMeta : Option SessionMeta) :
    AuthProgram Session := do
  refreshTokenRepo.insert (rootToken deps draws userId sessionMeta)
  let accessToken ←
    tokenSigner.signAccess { sub := userId, jti := draws.jti }
  return { accessToken, refreshToken := draws.raw }

/-! ## `RefreshSession` -/

namespace RefreshSession

/-- The row that `rotateToken` inserts as the successor of a token. -/
def successor (deps : SessionDeps) (draws : SessionDraws)
    (current : RefreshToken) (sessionMeta : Option SessionMeta) :
    NewRefreshToken where
  id := draws.id
  userId := current.userId
  tokenHash := deps.hashRefresh draws.raw
  familyId := current.familyId
  parentId := some current.id
  replacedById := none
  userAgent :=
    (sessionMeta.bind SessionMeta.userAgent).or current.userAgent
  ip := (sessionMeta.bind SessionMeta.ip).or current.ip
  expiresAt := deps.expiry draws.now
  revokedAt := none

def rotateToken (deps : SessionDeps) (draws : SessionDraws)
    (current : RefreshToken) (sessionMeta : Option SessionMeta) :
    AuthProgram Session := do
  refreshTokenRepo.insert (successor deps draws current sessionMeta)
  refreshTokenRepo.markRevoked current.id (some draws.id)
  let accessToken ←
    tokenSigner.signAccess { sub := current.userId, jti := draws.jti }
  return { accessToken, refreshToken := draws.raw }

/--
The end of the branch for a revoked token: the family is revoked if the token
was rotated, and the call throws.
-/
def refuse (current : RefreshToken) : AuthProgram Session :=
  match current.replacedById with
  | some _ => do
      refreshTokenRepo.revokeFamily current.familyId
      .fail (.authError "Invalid refresh token")
  | none => .fail (.authError "Invalid refresh token")

/-- The branch for a token that is already revoked. -/
def replayed (deps : SessionDeps) (draws : SessionDraws)
    (current : RefreshToken) (revokedAt : Time)
    (sessionMeta : Option SessionMeta) : AuthProgram Session :=
  match current.replacedById with
  | none => refuse current
  | some replacedById =>
      if 0 < deps.graceWindowSec ∧
          draws.now - revokedAt ≤ deps.graceWindowSec * 1000 then do
        match ← refreshTokenRepo.findById replacedById with
        | none => refuse current
        | some replacement =>
            if replacement.revokedAt = none ∧
                draws.now < replacement.expiresAt then
              rotateToken deps draws replacement sessionMeta
            else refuse current
      else refuse current

/-- The body of `execute` after the token has been looked up. -/
def lookedUp (deps : SessionDeps) (draws : SessionDraws)
    (sessionMeta : Option SessionMeta) :
    Option RefreshToken → AuthProgram Session
  | none => .fail (.authError "Invalid refresh token")
  | some current =>
      match current.revokedAt with
      | some revokedAt => replayed deps draws current revokedAt sessionMeta
      | none =>
          if current.expiresAt < draws.now then
            .fail (.authError "Refresh token expired")
          else rotateToken deps draws current sessionMeta

def execute (deps : SessionDeps) (draws : SessionDraws) (rawToken : String)
    (sessionMeta : Option SessionMeta) : AuthProgram Session := do
  let current ← refreshTokenRepo.findByHash (deps.hashRefresh rawToken)
  lookedUp deps draws sessionMeta current

end RefreshSession

/-! ## `RevokeSession` -/

namespace RevokeSession

/-- The body of `execute` after the token has been looked up. -/
def lookedUp : Option RefreshToken → AuthProgram Unit
  | none => .done ()
  | some token =>
      match token.revokedAt with
      | some _ => .done ()
      | none => refreshTokenRepo.markRevoked token.id none

def execute (deps : SessionDeps) (rawToken : String) : AuthProgram Unit := do
  let token ← refreshTokenRepo.findByHash (deps.hashRefresh rawToken)
  lookedUp token

end RevokeSession

/-! ## `ConfirmPasswordReset` -/

namespace ConfirmPasswordReset

def execute (services : AuthServices) (salt rawToken newPassword : String) :
    AuthProgram Unit := do
  match ← emailTokenRepo.consume (services.sha256Sync rawToken) .reset with
  | none => .fail (.authError "Invalid or expired reset token")
  | some token =>
      let passwordHash ← passwordHasher.hash newPassword salt
      let _ ← userRepo.update token.userId { passwordHash }
      refreshTokenRepo.revokeAllForUser token.userId

end ConfirmPasswordReset

/-! ## Calls -/

/-- The calls that act on the refresh tokens of sessions. -/
inductive SessionCall where
  | createSession (draws : SessionDraws) (userId : String)
      (sessionMeta : Option SessionMeta)
  | refresh (draws : SessionDraws) (rawToken : String)
      (sessionMeta : Option SessionMeta)
  | revoke (rawToken : String)
  | revokeAllForUser (userId : String)
deriving DecidableEq, Repr

/-- The program of a call, with the token pair it returns if it returns one. -/
def SessionCall.program (deps : SessionDeps) :
    SessionCall → AuthProgram (Option Session)
  | .createSession draws userId sessionMeta =>
      some <$> Sessions.createSession deps draws userId sessionMeta
  | .refresh draws rawToken sessionMeta =>
      some <$> RefreshSession.execute deps draws rawToken sessionMeta
  | .revoke rawToken =>
      (fun _ => none) <$> RevokeSession.execute deps rawToken
  | .revokeAllForUser userId =>
      (fun _ => none) <$> refreshTokenRepo.revokeAllForUser userId

/-- The ids a call draws. -/
def SessionCall.drawnIds : SessionCall → List String
  | .createSession draws _ _ => [draws.familyId, draws.id]
  | .refresh draws _ _ => [draws.id]
  | .revoke _ => []
  | .revokeAllForUser _ => []

/-- The raw refresh tokens a call draws. -/
def SessionCall.drawnRaws : SessionCall → List String
  | .createSession draws _ _ => [draws.raw]
  | .refresh draws _ _ => [draws.raw]
  | .revoke _ => []
  | .revokeAllForUser _ => []

/-- The raw refresh tokens a call hashes. -/
def SessionCall.usedRaws : SessionCall → List String
  | .createSession draws _ _ => [draws.raw]
  | .refresh draws rawToken _ => [draws.raw, rawToken]
  | .revoke rawToken => [rawToken]
  | .revokeAllForUser _ => []

/-- The user a call opens a session for. -/
def SessionCall.opensFor : SessionCall → Option String
  | .createSession _ userId _ => some userId
  | _ => none

/-! ## A sample configuration -/

/-- The SHA-256 digests of three peppered tokens. -/
def sampleDigest : String → String
  | "pepperraw-0" =>
      "e64838588c4487c7152b03df9771e47a4f8ec7e2217d65176707859c23504fc8"
  | "pepperraw-1" =>
      "95017992ae4593def85aa207896e991ca49306276f43ede7fa9834073d1a2f65"
  | "pepperraw-2" =>
      "988f1abbc4cb7d701eea23026656cda698bef2b130d4634873a1717d01ebb9bb"
  | content => content

def sampleDeps (graceWindowSec : Int) : SessionDeps where
  sha256Sync := sampleDigest
  argon2id := fun plain salt => salt ++ plain
  signJwt := fun claims _ => claims.sub ++ "." ++ claims.jti
  refreshTtlSec := 600
  refreshPepper := "pepper"
  graceWindowSec := graceWindowSec

def sampleUser : User where
  id := "user-1"
  email := "ana@example.com"
  passwordHash := "hash"
  displayName := "Ana"
  avatarUrl := none
  emailVerifiedAt := none
  createdAt := 0
  updatedAt := 0

/-- The draws of the call that makes the numbered raw token. -/
def sampleDraws (now : Time) (number : String) : SessionDraws where
  now := now
  raw := "raw-" ++ number
  familyId := "family-" ++ number
  id := "token-" ++ number
  jti := "jti-" ++ number

/-- The account tables after a login. -/
def sampleState (graceWindowSec : Int) : AuthState where
  users := [sampleUser]
  refreshTokens :=
    [(rootToken (sampleDeps graceWindowSec) (sampleDraws 0 "0") "user-1"
      none).insertedAt 0]
  emailTokens := []

end ChatBackend.Auth.Sessions
