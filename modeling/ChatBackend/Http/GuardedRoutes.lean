import ChatBackend.Http.Compose
import ChatBackend.Http.RateLimit

/-!
# Guarded routes

Most routes stand behind `baseAuth`: a request id, the headers of CORS and of
security, the mapping of errors, the check of the access token and the rate
limit.  All of these middlewares await `next` where they call it, so they are
layers around the handler.

The token signer and the limiter come from outside, with what they answer while
a request is served, or the error they throw.  Such an error is none of the
domain.  The dependencies of the handler are its own.
-/

namespace ChatBackend.Http

open Effects
open RateLimit (KeyBy LimitedRequest RateLimitResult subject)

/-! ## Middlewares -/

section Middlewares

variable {World : Type}

abbrev Layer (World Result : Type) :=
  Program (layerPort (Exchange World) Thrown Response) Thrown Result

abbrev LayerMiddleware (World : Type) :=
  Request → Layer World Response

def LayerMiddleware.toMiddleware (layer : LayerMiddleware World) :
    Middleware World :=
  fun req => LayerProgram.toTask (layer req)

def getCtx : Layer World ReqCtx :=
  .call (LayerOp.act id) fun exchange => .done exchange.ctx

def setCtx (change : ReqCtx → ReqCtx) : Layer World Unit :=
  .call (LayerOp.act fun exchange => { exchange with ctx := change exchange.ctx })
    fun _ => .done ()

/-- What is thrown is thrown on. -/
def awaited {Error Result : Type} (thrown : Error → Thrown) :
    Except Error Result → Layer World Result
  | .ok result => .done result
  | .error error => .fail (thrown error)

/-- `next()`, whose error can be caught. -/
def attemptNext : Layer World (Except Thrown Response) :=
  .call LayerOp.next fun outcome => .done outcome

/-- `await next()` -/
def next : Layer World Response := do
  awaited id (← attemptNext)

def requestId : LayerMiddleware World := fun req => do
  let incoming := req.headers.get "x-request-id"
  setCtx fun ctx => { ctx with requestId := incoming.getD ctx.requestId }
  let res ← next
  let ctx ← getCtx
  return res.set "x-request-id" ctx.requestId

def buildCorsHeaders (origin : String) (req : Request) :
    List (String × String) :=
  [("Access-Control-Allow-Origin", if origin = "" then "*" else origin),
    ("Access-Control-Allow-Methods", "GET,POST,PUT,PATCH,DELETE,OPTIONS"),
    ("Access-Control-Allow-Headers",
      (req.headers.get "access-control-request-headers").getD
        "Content-Type,Authorization,X-Client-Type,X-Request-ID"),
    ("Access-Control-Allow-Credentials", "true"),
    ("Access-Control-Max-Age", "86400")]

def Response.setAll (response : Response) (entries : List (String × String)) :
    Response :=
  entries.foldl (fun response entry => response.set entry.1 entry.2) response

def cors (allowedOrigins : List String) : LayerMiddleware World := fun req => do
  let origin := (req.headers.get "origin").getD ""
  let isAllowed := allowedOrigins = [] ∨ origin ∈ allowedOrigins
  if req.method = "OPTIONS" then
    return Response.setAll { status := 204, headers := [], body := .none }
      (buildCorsHeaders (if isAllowed then origin else "") req)
  else
    let res ← next
    if isAllowed then
      return res.setAll (buildCorsHeaders origin req)
    else
      return res

def securityEntries (production : Bool) : List (String × String) :=
  [("X-Content-Type-Options", "nosniff"),
    ("X-Frame-Options", "DENY"),
    ("Referrer-Policy", "strict-origin-when-cross-origin"),
    ("Content-Security-Policy", "default-src 'none'; base-uri 'none'; " ++
      "form-action 'none'; frame-ancestors 'none'")] ++
  if production then
    [("Strict-Transport-Security", "max-age=31536000; includeSubDomains")]
  else []

/-- `production` says whether `env.NODE_ENV` is that. -/
def securityHeaders (production : Bool) : LayerMiddleware World :=
  fun _ => do
    let res ← next
    return res.setAll (securityEntries production)

/-- `Response.json({ error: message }, { status })` -/
def Response.json (message : String) (status : Nat) : Response where
  status := status
  headers := [("content-type", "application/json")]
  body := .error message

/-- The response that an error is mapped to. -/
def mapped : Thrown → Response
  | .failure (.validationError message) => Response.json message 400
  | .failure (.authError message) => Response.json message 401
  | .failure (.forbiddenError message) => Response.json message 403
  | .failure (.notFoundError message) => Response.json message 404
  | .failure (.conflictError message) => Response.json message 409
  | .failure (.rateLimitError retryAfter) =>
      (Response.json "Too many requests" 429).set "Retry-After"
        (toString retryAfter)
  | .failure (.databaseError _) => Response.json "Internal Server Error" 500
  | .failure .typeError => Response.json "Internal Server Error" 500
  | .error _ => Response.json "Internal Server Error" 500

def errorMapper : LayerMiddleware World := fun _ => do
  match ← attemptNext with
  | .ok res => return res
  | .error err => return mapped err

/-- What `verifyAccess` and `consume` answer, or the message they throw. -/
structure Dependencies where
  verifyAccess : String → Except String (Option AccessTokenClaims)
  consume : String → Int → Int → Except String RateLimitResult

/-- The token of an authorization header; an empty one counts as none. -/
def bearerToken (req : Request) : Option String :=
  match req.headers.get "authorization" with
  | none => none
  | some header =>
      if "Bearer ".toList.isPrefixOf header.toList then
        (some (String.ofList (header.toList.drop 7))).filter (· ≠ "")
      else none

def authMiddleware (dependencies : Dependencies) : LayerMiddleware World :=
  fun req => do
    match bearerToken req with
    | none => .fail (.failure (.authError "Missing authorization token"))
    | some token =>
        match ← awaited .error (dependencies.verifyAccess token) with
        | none => .fail (.failure (.authError "Invalid or expired token"))
        | some claims =>
            setCtx fun ctx => { ctx with userId := some claims.sub }
            next

/-- `later` is what `Date.now()` reads on a refusal. -/
def rateLimit (dependencies : Dependencies) (later : Time) (key : String)
    (max windowSec : Int) (keyBy : KeyBy) : LayerMiddleware World :=
  fun req => do
    let ctx ← getCtx
    let subject := subject keyBy
      { userId := ctx.userId
        xForwardedFor := req.headers.get "x-forwarded-for"
        xRealIp := req.headers.get "x-real-ip" }
    let result ← awaited .error
      (dependencies.consume (key ++ ":" ++ subject) max windowSec)
    if ¬ result.allowed then
      .fail (.failure (.rateLimitError
        (Max.max 0 (result.resetAt - later / 1000))))
    else next

/-! ## The routes -/

/-- The variables of the environment that `baseAuth` depends on. -/
structure Env where
  corsOrigins : List String
  production : Bool
  rateLimitDefaultMax : Int
  rateLimitDefaultWindow : Int
deriving DecidableEq, Repr

def baseAuth (env : Env) (dependencies : Dependencies) (later : Time) :
    List (LayerMiddleware World) :=
  [requestId, cors env.corsOrigins, securityHeaders env.production,
    errorMapper, authMiddleware dependencies,
    rateLimit dependencies later "default" env.rateLimitDefaultMax
      env.rateLimitDefaultWindow .user]

end Middlewares

structure Route where
  method : String
  path : String
deriving DecidableEq, Repr

/-- The routes that `createServer` registers behind `baseAuth`. -/
def baseAuthRoutes : List Route :=
  [⟨"POST", "/api/v1/auth/logout"⟩,
    ⟨"GET", "/api/v1/auth/me"⟩,
    ⟨"POST", "/api/v1/auth/verify-email/request"⟩,
    ⟨"GET", "/api/v1/users"⟩,
    ⟨"GET", "/api/v1/users/me"⟩,
    ⟨"PATCH", "/api/v1/users/me"⟩,
    ⟨"GET", "/api/v1/users/:id"⟩,
    ⟨"GET", "/api/v1/rooms"⟩,
    ⟨"POST", "/api/v1/rooms"⟩,
    ⟨"GET", "/api/v1/rooms/:id"⟩,
    ⟨"DELETE", "/api/v1/rooms/:id"⟩,
    ⟨"POST", "/api/v1/rooms/:id/members"⟩,
    ⟨"DELETE", "/api/v1/rooms/:id/members"⟩,
    ⟨"POST", "/api/v1/ws/ticket"⟩,
    ⟨"POST", "/api/v1/attachments/presign"⟩,
    ⟨"GET", "/api/v1/attachments/confirm"⟩,
    ⟨"GET", "/api/v1/rooms/:id/messages"⟩,
    ⟨"POST", "/api/v1/rooms/:id/messages"⟩,
    ⟨"PATCH", "/api/v1/messages/:id"⟩,
    ⟨"DELETE", "/api/v1/messages/:id"⟩]

/-! ## What each middleware does -/

section Evaluation

open LayerProgram

variable {World : Type}
  (inner : Exchange World → Settled (Exchange World) Thrown Response)
  (exchange : Exchange World) (req : Request)

theorem evaluate_next_bind (rest : Response → Layer World Response) :
    evaluate inner (next >>= rest : Layer World Response) exchange =
      match (inner exchange).outcome with
      | .ok res =>
          (evaluate inner (rest res) (inner exchange).state).after
            (inner exchange).entered
      | .error error =>
          ⟨.error error, (inner exchange).state, (inner exchange).entered⟩ := by
  change (evaluate inner
    (awaited id (inner exchange).outcome >>= rest : Layer World Response)
    (inner exchange).state).after (inner exchange).entered = _
  cases (inner exchange).outcome with
  | ok res => rfl
  | error error => exact congrArg (Settled.mk _ _) (List.append_nil _)

theorem evaluate_requestId :
    evaluate inner (requestId req) exchange =
      let settled := inner { exchange with
        ctx := { exchange.ctx with
          requestId := (req.headers.get "x-request-id").getD
            exchange.ctx.requestId } }
      { settled with
        outcome := settled.outcome.map fun res =>
          res.set "x-request-id" settled.state.ctx.requestId } := by
  have asked := evaluate_next_bind inner { exchange with
    ctx := { exchange.ctx with
      requestId := (req.headers.get "x-request-id").getD
        exchange.ctx.requestId } }
    fun res => do
      let ctx ← getCtx
      return res.set "x-request-id" ctx.requestId
  refine asked.trans ?_
  dsimp only
  cases (inner _).outcome with
  | ok res => exact congrArg (Settled.mk _ _) (List.append_nil _)
  | error error => rfl

theorem evaluate_cors (allowedOrigins : List String)
    (asked : req.method ≠ "OPTIONS") :
    evaluate inner (cors allowedOrigins req) exchange =
      let origin := (req.headers.get "origin").getD ""
      let settled := inner exchange
      { settled with
        outcome := settled.outcome.map fun res =>
          if allowedOrigins = [] ∨ origin ∈ allowedOrigins then
            res.setAll (buildCorsHeaders origin req)
          else res } := by
  unfold cors
  rw [if_neg asked]
  rw [evaluate_next_bind]
  dsimp only
  cases (inner exchange).outcome with
  | ok res => 
      dsimp only
      split
      · exact congrArg (Settled.mk _ _) (List.append_nil _)
      · exact congrArg (Settled.mk _ _) (List.append_nil _)
  | error error => rfl

theorem evaluate_securityHeaders (production : Bool) :
    evaluate inner (securityHeaders production req) exchange =
      let settled := inner exchange
      { settled with
        outcome := settled.outcome.map fun res =>
          res.setAll (securityEntries production) } := by
  unfold securityHeaders
  rw [evaluate_next_bind]
  dsimp only
  cases (inner exchange).outcome with
  | ok res => exact congrArg (Settled.mk _ _) (List.append_nil _)
  | error error => rfl

theorem evaluate_errorMapper :
    evaluate inner (errorMapper req) exchange =
      let settled := inner exchange
      { settled with
        outcome := .ok (match settled.outcome with
          | .ok res => res
          | .error err => mapped err) } := by
  change (evaluate inner (match (inner exchange).outcome with
    | .ok res => .done res
    | .error err => .done (mapped err)) (inner exchange).state).after
      (inner exchange).entered = _
  dsimp only
  cases (inner exchange).outcome with
  | ok res => exact congrArg (Settled.mk _ _) (List.append_nil _)
  | error error => exact congrArg (Settled.mk _ _) (List.append_nil _)

theorem evaluate_next : evaluate inner next exchange = inner exchange := by
  change (evaluate inner (awaited id (inner exchange).outcome)
    (inner exchange).state).after (inner exchange).entered = _
  have ends : evaluate inner (awaited id (inner exchange).outcome)
      (inner exchange).state =
        ⟨(inner exchange).outcome, (inner exchange).state, []⟩ := by
    cases (inner exchange).outcome <;> rfl
  rw [ends]
  exact congrArg (Settled.mk _ _) (List.append_nil _)

theorem evaluate_authMiddleware (dependencies : Dependencies) :
    evaluate inner (authMiddleware dependencies req) exchange =
      match bearerToken req with
      | none =>
          ⟨.error (.failure (.authError "Missing authorization token")),
            exchange, []⟩
      | some token =>
          match dependencies.verifyAccess token with
          | .error message => ⟨.error (.error message), exchange, []⟩
          | .ok none =>
              ⟨.error (.failure (.authError "Invalid or expired token")),
                exchange, []⟩
          | .ok (some claims) =>
              inner { exchange with
                ctx := { exchange.ctx with userId := some claims.sub } } := by
  unfold authMiddleware
  cases bearerToken req with
  | none => rfl
  | some token =>
      dsimp only
      cases dependencies.verifyAccess token with
      | error message => rfl
      | ok verified =>
          cases verified with
          | none => rfl
          | some claims => exact evaluate_next inner _

theorem evaluate_rateLimit (dependencies : Dependencies) (later : Time)
    (key : String) (max windowSec : Int) (keyBy : KeyBy) :
    evaluate inner
        (rateLimit dependencies later key max windowSec keyBy req) exchange =
      match dependencies.consume (key ++ ":" ++ subject keyBy
          { userId := exchange.ctx.userId
            xForwardedFor := req.headers.get "x-forwarded-for"
            xRealIp := req.headers.get "x-real-ip" }) max windowSec with
      | .error message => ⟨.error (.error message), exchange, []⟩
      | .ok result =>
          if ¬ result.allowed then
            ⟨.error (.failure (.rateLimitError
              (Max.max 0 (result.resetAt - later / 1000)))), exchange, []⟩
          else inner exchange := by
  change evaluate inner (awaited .error (dependencies.consume _ max windowSec)
    >>= _ : Layer World Response) exchange = _
  cases dependencies.consume _ max windowSec with
  | error message => rfl
  | ok result =>
      dsimp only
      cases allowed : result.allowed with
      | true =>
          change evaluate inner (if ¬ result.allowed = true then _ else _)
            exchange = _
          rw [if_neg (by simp [allowed]), if_neg (by simp)]
          exact evaluate_next inner exchange
      | false =>
          change evaluate inner (if ¬ result.allowed = true then _ else _)
            exchange = _
          rw [if_pos (by simp [allowed]), if_pos (by simp)]
          rfl

end Evaluation

/-! ## Each hands over at most once -/

section Once

open LayerProgram

variable {World : Type} (req : Request)

theorem once_next_bind {rest : Response → Layer World Response}
    (quiet : ∀ res, Quiet (rest res)) :
    Once (next >>= rest : Layer World Response) := by
  rintro (error | res)
  · trivial
  · exact quiet res

theorem once_next : Once (next : Layer World Response) := by
  rintro (error | res) <;> trivial

theorem once_requestId : Once (requestId req : Layer World Response) :=
  fun _ => once_next_bind fun _ _ => trivial

theorem once_cors (allowedOrigins : List String) :
    Once (cors allowedOrigins req : Layer World Response) := by
  unfold cors
  dsimp only
  split
  · trivial
  · refine once_next_bind fun res => ?_
    split <;> trivial

theorem once_securityHeaders (production : Bool) :
    Once (securityHeaders production req : Layer World Response) :=
  once_next_bind fun _ => trivial

theorem once_errorMapper : Once (errorMapper req : Layer World Response) := by
  rintro (error | res) <;> trivial

theorem once_authMiddleware (dependencies : Dependencies) :
    Once (authMiddleware dependencies req : Layer World Response) := by
  unfold authMiddleware
  cases bearerToken req with
  | none => trivial
  | some token =>
      dsimp only
      rcases dependencies.verifyAccess token with message | _ | claims
      · trivial
      · trivial
      · exact fun _ => once_next

theorem once_rateLimit (dependencies : Dependencies) (later : Time)
    (key : String) (max windowSec : Int) (keyBy : KeyBy) :
    Once (rateLimit dependencies later key max windowSec keyBy req :
      Layer World Response) := by
  intro exchange
  change Once (awaited .error (dependencies.consume _ max windowSec) >>= _ :
    Layer World Response)
  rcases dependencies.consume _ max windowSec with message | result
  · trivial
  · change Once (if ¬ result.allowed = true then _ else next :
      Layer World Response)
    split
    · trivial
    · exact once_next

theorem once_baseAuth (env : Env) (dependencies : Dependencies)
    (later : Time) :
    ∀ layer ∈ (baseAuth env dependencies later : List (LayerMiddleware World)),
      Once (layer req) := by
  simp only [baseAuth, List.forall_mem_cons]
  exact ⟨once_requestId req, once_cors req _, once_securityHeaders req _,
    once_errorMapper req, once_authMiddleware req _,
    once_rateLimit req _ _ _ _ _ _, List.forall_mem_nil _⟩

end Once

/-! ## Headers of responses -/

section Carried

def names (entries : List (String × String)) : List String :=
  entries.map fun entry => lowerCase entry.1

theorem get_setAll_of_not_mem {entries : List (String × String)}
    {name : String} (absent : lowerCase name ∉ names entries)
    (response : Response) :
    (response.setAll entries).headers.get name =
      response.headers.get name := by
  induction entries generalizing response with
  | nil => rfl
  | cons entry rest induction =>
      rw [names, List.map_cons, List.mem_cons, not_or] at absent
      refine (induction absent.2 (response.set entry.1 entry.2)).trans ?_
      exact Headers.get_set_of_ne absent.1

theorem get_setAll_of_mem {entries : List (String × String)}
    (distinct : (names entries).Nodup) {entry : String × String}
    (member : entry ∈ entries) (response : Response) :
    (response.setAll entries).headers.get entry.1 = some entry.2 := by
  induction entries generalizing response with
  | nil => cases member
  | cons first rest induction =>
      rw [names, List.map_cons, List.nodup_cons] at distinct
      rcases List.mem_cons.mp member with rfl | later
      · refine (get_setAll_of_not_mem distinct.1 _).trans ?_
        exact Headers.get_set_self _ _ _
      · exact induction distinct.2 later _

theorem status_setAll (response : Response)
    (entries : List (String × String)) :
    (response.setAll entries).status = response.status := by
  induction entries generalizing response with
  | nil => rfl
  | cons entry rest induction => exact induction (response.set entry.1 entry.2)

end Carried

/-- The response has the request id and all the security headers. -/
def Carries (env : Env) (requestId : String) (response : Response) : Prop :=
  response.headers.get "x-request-id" = some requestId ∧
    ∀ entry ∈ securityEntries env.production,
      response.headers.get entry.1 = some entry.2

section Dressed

variable (env : Env) (req : Request)

/-- What the three outer middlewares make of a response. -/
def dressed (requestId : String) (response : Response) : Response :=
  let origin := (req.headers.get "origin").getD ""
  let secured := response.setAll (securityEntries env.production)
  (if env.corsOrigins = [] ∨ origin ∈ env.corsOrigins then
    secured.setAll (buildCorsHeaders origin req)
  else secured).set "x-request-id" requestId

theorem status_dressed (requestId : String) (response : Response) :
    (dressed env req requestId response).status = response.status := by
  unfold dressed
  dsimp only [Response.set]
  split
  · rw [status_setAll, status_setAll]
  · rw [status_setAll]

theorem names_securityEntries_nodup (production : Bool) :
    (names (securityEntries production)).Nodup := by
  cases production <;> decide

/-- The other headers that are set have names of their own. -/
theorem securityEntries_apart (production : Bool) (origin : String)
    (req : Request) :
    ∀ entry ∈ securityEntries production,
      lowerCase entry.1 ∉ names (buildCorsHeaders origin req) ∧
        lowerCase entry.1 ≠ lowerCase "x-request-id" := by
  have fixed : names (buildCorsHeaders origin req) =
      names (buildCorsHeaders "" { method := "", headers := [] }) := rfl
  rw [fixed]
  cases production <;> decide

theorem carries_dressed (requestId : String) (response : Response) :
    Carries env requestId (dressed env req requestId response) := by
  refine ⟨Headers.get_set_self _ _ _, fun entry member => ?_⟩
  obtain ⟨apart, other⟩ := securityEntries_apart env.production
    ((req.headers.get "origin").getD "") req entry member
  have secured := get_setAll_of_mem
    (names_securityEntries_nodup env.production) member response
  refine (Headers.get_set_of_ne other).trans ?_
  split
  · exact (get_setAll_of_not_mem apart _).trans secured
  · exact secured

end Dressed

/-! ## Who gets to the handler -/

/-- The token is accepted, and the limiter allows the key of its subject. -/
structure Admitted (env : Env) (dependencies : Dependencies) (req : Request)
    (claims : AccessTokenClaims) : Prop where
  accepted : ∃ token, bearerToken req = some token ∧
    dependencies.verifyAccess token = .ok (some claims)
  allowed : ∃ result,
    dependencies.consume ("default:" ++ claims.sub) env.rateLimitDefaultMax
        env.rateLimitDefaultWindow = .ok result ∧
      result.allowed = true

/-- Why a request is answered before the handler, and with which status. -/
inductive Refused (env : Env) (dependencies : Dependencies) (req : Request) :
    Nat → Prop where
  | missing (without : bearerToken req = none) : Refused env dependencies req 401
  | invalid (token : String) (given : bearerToken req = some token)
      (rejected : dependencies.verifyAccess token = .ok none) :
      Refused env dependencies req 401
  | exceeded (token : String) (claims : AccessTokenClaims)
      (result : RateLimitResult) (given : bearerToken req = some token)
      (accepted : dependencies.verifyAccess token = .ok (some claims))
      (refused : dependencies.consume ("default:" ++ claims.sub)
        env.rateLimitDefaultMax env.rateLimitDefaultWindow = .ok result)
      (full : result.allowed = false) :
      Refused env dependencies req 429
  | signerFailed (token message : String)
      (given : bearerToken req = some token)
      (failed : dependencies.verifyAccess token = .error message) :
      Refused env dependencies req 500
  | limiterFailed (token message : String) (claims : AccessTokenClaims)
      (given : bearerToken req = some token)
      (accepted : dependencies.verifyAccess token = .ok (some claims))
      (failed : dependencies.consume ("default:" ++ claims.sub)
        env.rateLimitDefaultMax env.rateLimitDefaultWindow = .error message) :
      Refused env dependencies req 500

/--
A token verifies only if it was signed with the secret, and what is signed is
the id of a user, which is a text of 36 characters.
-/
def SignsUsers (dependencies : Dependencies) : Prop :=
  ∀ token claims, dependencies.verifyAccess token = .ok (some claims) →
    claims.sub ≠ ""

section Guards

variable {World : Type} (env : Env) (dependencies : Dependencies)
  (later : Time) (handler : RouteHandler World) (req : Request)

/-- The check of the token and the limit, around the handler. -/
def guards : List (LayerMiddleware World) :=
  [authMiddleware dependencies,
    rateLimit dependencies later "default" env.rateLimitDefaultMax
      env.rateLimitDefaultWindow .user]

def settleGuards (exchange : Exchange World) :
    Settled (Exchange World) Thrown Response :=
  settle (handler req)
    ((guards env dependencies later).map fun layer => layer req) exchange

/-- The exchange once the token was accepted. -/
def authenticated (exchange : Exchange World) (claims : AccessTokenClaims) :
    Exchange World :=
  { exchange with ctx := { exchange.ctx with userId := some claims.sub } }

/-- What the limit and the handler come to, for an accepted token. -/
def settleLimited (exchange : Exchange World) (claims : AccessTokenClaims) :
    Settled (Exchange World) Thrown Response :=
  match dependencies.consume ("default:" ++ claims.sub)
      env.rateLimitDefaultMax env.rateLimitDefaultWindow with
  | .error message =>
      ⟨.error (.error message), authenticated exchange claims, []⟩
  | .ok result =>
      if result.allowed then
        settle (handler req) [] (authenticated exchange claims)
      else
        ⟨.error (.failure (.rateLimitError
          (Max.max 0 (result.resetAt - later / 1000)))),
          authenticated exchange claims, []⟩

/-- The exchange once the request id is set. -/
def identified (exchange : Exchange World) : Exchange World :=
  { exchange with
    ctx := { exchange.ctx with
      requestId := (req.headers.get "x-request-id").getD
        exchange.ctx.requestId } }

/-- Whatever the inner layers come to, the answer is a response. -/
theorem settle_mapped (layers : List (LayerMiddleware World))
    (exchange : Exchange World) (asked : req.method ≠ "OPTIONS") :
    settle (handler req)
        ((requestId :: cors env.corsOrigins :: securityHeaders env.production ::
          errorMapper :: layers).map fun layer => layer req) exchange =
      let entered := identified req exchange
      let settled := settle (handler req)
        (layers.map fun layer => layer req) entered
      ⟨.ok (dressed env req settled.state.ctx.requestId
          (match settled.outcome with
            | .ok res => res
            | .error err => mapped err)),
        settled.state,
        [exchange, entered, entered, entered] ++ settled.entered⟩ := by
  dsimp only
  rw [List.map_cons, settle, evaluate_requestId]
  rw [List.map_cons, settle, evaluate_cors _ _ _ _ asked]
  rw [List.map_cons, settle, evaluate_securityHeaders]
  rw [List.map_cons, settle, evaluate_errorMapper]
  rfl

theorem settle_baseAuth (exchange : Exchange World)
    (asked : req.method ≠ "OPTIONS") :
    settle (handler req)
        ((baseAuth env dependencies later).map fun layer => layer req)
        exchange =
      let entered := identified req exchange
      let settled := settleGuards env dependencies later handler req entered
      ⟨.ok (dressed env req settled.state.ctx.requestId
          (match settled.outcome with
            | .ok res => res
            | .error err => mapped err)),
        settled.state,
        [exchange, entered, entered, entered] ++ settled.entered⟩ :=
  settle_mapped env handler req (guards env dependencies later) exchange asked

section Verdicts

variable {env dependencies later handler req} {claims : AccessTokenClaims}
  {status : Nat} (exchange : Exchange World)

theorem settleGuards_eq :
    settleGuards env dependencies later handler req exchange =
      (LayerProgram.evaluate
        (settle (handler req)
          [rateLimit dependencies later "default" env.rateLimitDefaultMax
            env.rateLimitDefaultWindow .user req])
        (authMiddleware dependencies req) exchange).after [exchange] :=
  rfl

theorem subject_user {userId : String} (named : userId ≠ "")
    (xForwardedFor xRealIp : Option String) :
    subject .user { userId := some userId, xForwardedFor, xRealIp } =
      userId := by
  unfold subject
  dsimp only
  rw [if_pos rfl, Option.filter_some, if_pos (by simpa using named)]
  rfl

/-- Behind an accepted token it is the limiter that decides. -/
theorem settleGuards_accepted (named : claims.sub ≠ "")
    {token : String} (given : bearerToken req = some token)
    (accepted : dependencies.verifyAccess token = .ok (some claims)) :
    settleGuards env dependencies later handler req exchange =
      (settleLimited env dependencies later handler req exchange claims).after
        [exchange, authenticated exchange claims] := by
  rw [settleGuards_eq, evaluate_authMiddleware, given]
  dsimp only
  rw [accepted]
  dsimp only
  rw [settle, evaluate_rateLimit, Settled.after_after, subject_user named,
    show "default" ++ ":" = "default:" by decide]
  unfold settleLimited
  rcases dependencies.consume ("default:" ++ claims.sub)
    env.rateLimitDefaultMax env.rateLimitDefaultWindow with message | result
  · rfl
  · dsimp only
    cases result.allowed <;> rfl

theorem settleGuards_refused (signs : SignsUsers dependencies)
    (refused : Refused env dependencies req status) :
    (∃ thrown, (settleGuards env dependencies later handler req
        exchange).outcome = .error thrown ∧
      (mapped thrown).status = status) ∧
      (settleGuards env dependencies later handler req
        exchange).state.ctx.requestId = exchange.ctx.requestId := by
  cases refused with
  | missing without =>
      rw [settleGuards_eq, evaluate_authMiddleware, without]
      exact ⟨⟨_, rfl, rfl⟩, rfl⟩
  | invalid token given rejected =>
      rw [settleGuards_eq, evaluate_authMiddleware, given]
      dsimp only
      rw [rejected]
      exact ⟨⟨_, rfl, rfl⟩, rfl⟩
  | signerFailed token message given failed =>
      rw [settleGuards_eq, evaluate_authMiddleware, given]
      dsimp only
      rw [failed]
      exact ⟨⟨_, rfl, rfl⟩, rfl⟩
  | exceeded token claims result given accepted refused full =>
      rw [settleGuards_accepted exchange (signs token claims accepted) given
        accepted, settleLimited, refused]
      dsimp only
      rw [full]
      exact ⟨⟨_, rfl, rfl⟩, rfl⟩
  | limiterFailed token message claims given accepted failed =>
      rw [settleGuards_accepted exchange (signs token claims accepted) given
        accepted, settleLimited, failed]
      exact ⟨⟨_, rfl, rfl⟩, rfl⟩

variable (env dependencies req)

theorem admitted_or_refused :
    (∃ claims, Admitted env dependencies req claims) ∨
      ∃ status, Refused env dependencies req status := by
  cases given : bearerToken req with
  | none => exact .inr ⟨401, .missing given⟩
  | some token =>
      rcases verified : dependencies.verifyAccess token with
        message | _ | claims
      · exact .inr ⟨500, .signerFailed token message given verified⟩
      · exact .inr ⟨401, .invalid token given verified⟩
      · rcases consumed : dependencies.consume ("default:" ++ claims.sub)
          env.rateLimitDefaultMax env.rateLimitDefaultWindow with
          message | result
        · exact .inr
            ⟨500, .limiterFailed token message claims given verified consumed⟩
        · cases allowed : result.allowed with
          | true =>
              exact .inl ⟨claims, ⟨token, given, verified⟩,
                ⟨result, consumed, allowed⟩⟩
          | false =>
              exact .inr ⟨429, .exceeded token claims result given verified
                consumed allowed⟩

variable {env dependencies req}

/-- The handler is entered only by an admitted request, and as its user. -/
theorem admitted_of_entered (signs : SignsUsers dependencies)
    {handled : Exchange World}
    (entered : (settleGuards env dependencies later handler req
      exchange).entered[2]? = some handled) :
    ∃ claims, Admitted env dependencies req claims ∧
      handled.ctx.userId = some claims.sub := by
  cases given : bearerToken req with
  | none =>
      rw [settleGuards_eq, evaluate_authMiddleware, given] at entered
      cases entered
  | some token =>
      rcases verified : dependencies.verifyAccess token with
        message | _ | claims
      · rw [settleGuards_eq, evaluate_authMiddleware, given] at entered
        dsimp only at entered
        rw [verified] at entered
        cases entered
      · rw [settleGuards_eq, evaluate_authMiddleware, given] at entered
        dsimp only at entered
        rw [verified] at entered
        cases entered
      · rw [settleGuards_accepted exchange (signs token claims verified) given
          verified, settleLimited] at entered
        rcases consumed : dependencies.consume ("default:" ++ claims.sub)
          env.rateLimitDefaultMax env.rateLimitDefaultWindow with
          message | result
        · rw [consumed] at entered
          cases entered
        · rw [consumed] at entered
          dsimp only at entered
          cases allowed : result.allowed with
          | true =>
              rw [allowed] at entered
              cases entered
              exact ⟨claims, ⟨⟨token, given, verified⟩,
                ⟨result, consumed, allowed⟩⟩, rfl⟩
          | false =>
              rw [allowed] at entered
              cases entered

end Verdicts

end Guards

/-! ## Composed routes -/

section Routes

variable {World : Type} (layers : List (LayerMiddleware World))
  (handler : RouteHandler World) (req : Request)

/-- The middlewares that the layers are. -/
def toMiddlewares : List (Middleware World) :=
  layers.map LayerMiddleware.toMiddleware

theorem stage_toMiddlewares :
    stage (toMiddlewares layers) handler req =
      layerBody (layers.map fun layer => layer req) (handler req) := by
  funext position
  unfold stage layerBody layerAt toMiddlewares
  rw [List.getElem?_map, List.getElem?_map]
  cases layers[position]? <;> rfl

variable {layers}

theorem toMiddlewares_once
    (once : ∀ layer ∈ layers, ∀ req, LayerProgram.Once (layer req)) :
    ∀ mw ∈ toMiddlewares layers, ∀ req, (mw req).StartsAtMostOnce := by
  intro mw member req
  obtain ⟨layer, inside, rfl⟩ := List.mem_map.mp member
  exact (once layer inside req).startsAtMostOnce

section Settles

variable (once : ∀ layer ∈ layers, LayerProgram.Once (layer req))
  (randomUUID : String) (world : World)

/-- The exchange that a request starts with. -/
def started : Exchange World where
  ctx := { requestId := randomUUID, userId := none }
  world := world

theorem run_toMiddlewares (schedule : List Nat) :
    compose.run (toMiddlewares layers) handler req randomUUID world schedule =
      Tasks.run (compose.next (toMiddlewares layers) handler req)
        (Tasks.first
          (layerBody (layers.map fun layer => layer req) (handler req) 0) 1
          (started randomUUID world))
        schedule := by
  rw [← stage_toMiddlewares]
  rfl

theorem follows_toMiddlewares :
    Tasks.Follows (layers.map fun layer => layer req).length
      (layerBody (layers.map fun layer => layer req) (handler req))
      (fun position => position + 1)
      (compose.next (toMiddlewares layers) handler req) := by
  have follows := follows_compose (toMiddlewares layers) handler req
  rw [stage_toMiddlewares] at follows
  unfold toMiddlewares at follows
  rw [List.length_map] at follows ⊢
  exact follows

include once

theorem forall_once : ∀ layer ∈ layers.map fun layer => layer req,
    LayerProgram.Once layer := by
  intro layer member
  obtain ⟨original, inside, rfl⟩ := List.mem_map.mp member
  exact once original inside

/-- The response of composed layers is that of their evaluation. -/
theorem settle_of_compose {schedule : List Nat}
    {outcome : Except Thrown Response}
    (resulted : (compose.run (toMiddlewares layers) handler req randomUUID world
      schedule).outcome 0 = some outcome) :
    (settle (handler req) (layers.map fun layer => layer req)
        (started randomUUID world)).outcome = outcome ∧
      (settle (handler req) (layers.map fun layer => layer req)
        (started randomUUID world)).state =
          (compose.run (toMiddlewares layers) handler req randomUUID world
            schedule).state := by
  rw [run_toMiddlewares] at resulted ⊢
  exact settle_of_outcome (forall_once req once)
    (follows_toMiddlewares handler req) _ resulted

theorem entered_of_compose {schedule : List Nat} {position : Nat}
    {task : Task (Exchange World) Thrown Response}
    (there : (compose.run (toMiddlewares layers) handler req randomUUID world
      schedule).tasks[position]? = some task) :
    (settle (handler req) (layers.map fun layer => layer req)
      (started randomUUID world)).entered[position]? = some task.entered := by
  rw [run_toMiddlewares] at there
  exact entered_of_task (forall_once req once)
    (follows_toMiddlewares handler req) _ there

theorem exists_outcome_compose (schedule : List Nat) :
    ∃ rest outcome, (compose.run (toMiddlewares layers) handler req randomUUID
      world (schedule ++ rest)).outcome 0 = some outcome := by
  obtain ⟨rest, outcome, resulted⟩ := exists_outcome
    (forall_once req once) (follows_toMiddlewares handler req)
    (started randomUUID world) schedule
  refine ⟨rest, outcome, ?_⟩
  rw [run_toMiddlewares]
  exact resulted

end Settles

end Routes

/-- The router hands over only requests of the method of the route. -/
theorem not_options_of_route {route : Route} (member : route ∈ baseAuthRoutes) :
    route.method ≠ "OPTIONS" := by
  have all : ∀ route ∈ baseAuthRoutes, route.method ≠ "OPTIONS" := by decide
  exact all route member

/--
Composed middlewares do what the nested application does, in order and each
once.  On a guarded route the handler is entered only by an admitted request,
as its user, and every response carries the request id and the security
headers.  A request that is not admitted is answered with the status of its
refusal.
-/
theorem compose_guards :
    (∀ (World : Type) (middlewares : List (Middleware World))
        (handler : RouteHandler World) (req : Request),
      (∀ mw ∈ middlewares, ∀ req, (mw req).StartsAtMostOnce) →
      ∀ (randomUUID : String) (world : World) (schedule : List Nat),
        let all :=
          compose.run middlewares handler req randomUUID world schedule
        Tasks.Alike all
            (Application.run middlewares handler req randomUUID world
              schedule) ∧
          all.tasks.length ≤ middlewares.length + 1 ∧
          ∀ position task, all.tasks[position]? = some task →
            task.body = stage middlewares handler req position ∧
              task.caller = Tasks.predecessor position) ∧
    ∀ (World : Type) (env : Env) (dependencies : Dependencies) (later : Time)
        (handler : RouteHandler World) (req : Request) (route : Route),
      route ∈ baseAuthRoutes → req.method = route.method →
      SignsUsers dependencies →
      ∀ (randomUUID : String) (world : World) (schedule : List Nat),
        let composed := compose.run
          (toMiddlewares (baseAuth env dependencies later)) handler req
          randomUUID world
        let all := composed schedule
        (∀ task, all.tasks[6]? = some task →
          ∃ claims, Admitted env dependencies req claims ∧
            task.entered.ctx.userId = some claims.sub) ∧
        (∀ outcome, all.outcome 0 = some outcome →
          ∃ response, outcome = .ok response ∧
            Carries env all.state.ctx.requestId response ∧
            ((∃ claims, Admitted env dependencies req claims) ∨
              Refused env dependencies req response.status ∧
                all.state.ctx.requestId =
                  (req.headers.get "x-request-id").getD randomUUID)) ∧
        ∃ rest outcome,
          (composed (schedule ++ rest)).outcome 0 = some outcome := by
  refine ⟨?_, ?_⟩
  · intro World middlewares handler req once randomUUID world schedule
    exact ⟨alike_nested handler req once randomUUID world schedule,
      inOrder_compose handler req once randomUUID world schedule⟩
  · intro World env dependencies later handler req route member asked signs
      randomUUID world schedule composed all
    have once := @once_baseAuth World req env dependencies later
    have evaluated := settle_baseAuth env dependencies later handler req
      (started randomUUID world)
      (fun options => not_options_of_route member (asked.symm.trans options))
    refine ⟨?_, ?_,
      exists_outcome_compose handler req once randomUUID world schedule⟩
    · intro task there
      have entered := entered_of_compose handler req once randomUUID world there
      rw [evaluated] at entered
      exact admitted_of_entered _ signs entered
    · intro outcome resulted
      obtain ⟨same, state⟩ :=
        settle_of_compose handler req once randomUUID world resulted
      rw [evaluated] at same state
      refine ⟨_, same.symm, ?_, ?_⟩
      · rw [← state]
        exact carries_dressed env req _ _
      · rcases admitted_or_refused env dependencies req with
          admitted | ⟨status, refused⟩
        · exact .inl admitted
        · obtain ⟨⟨thrown, threw, status⟩, kept⟩ := settleGuards_refused
            (identified req (started randomUUID world)) signs refused
          refine .inr ⟨?_, ?_⟩
          · rw [status_dressed, threw]
            exact status ▸ refused
          · rw [← state]
            exact kept

section Sample

def sampleEnv : Env where
  corsOrigins := []
  production := true
  rateLimitDefaultMax := 120
  rateLimitDefaultWindow := 60

/-- The signer knows one token, and the limiter allows its first request. -/
def sampleDependencies : Dependencies where
  verifyAccess token :=
    .ok (if token = "token" then
      some { sub := "9f0c", jti := "1" } else none)
  consume _ max windowSec :=
    .ok { allowed := true, remaining := max - 1, resetAt := windowSec }

theorem sampleDependencies_signs : SignsUsers sampleDependencies := by
  intro token claims verified
  unfold sampleDependencies at verified
  dsimp only at verified
  split at verified
  · cases verified
    decide
  · cases verified

def sampleRequest : Request where
  method := "GET"
  headers := [("authorization", "Bearer token")]

def sampleHandler : RouteHandler Unit := fun _ =>
  .fail (.failure (.notFoundError "User not found"))

theorem compose_guards_sample :
    Tasks.Alike
        (compose.run
          (toMiddlewares (baseAuth sampleEnv sampleDependencies 0))
          sampleHandler sampleRequest "5ca1ab1e" () [0, 0, 1])
        (Application.run
          (toMiddlewares (baseAuth sampleEnv sampleDependencies 0))
          sampleHandler sampleRequest "5ca1ab1e" () [0, 0, 1]) ∧
      ∃ rest response,
        (compose.run
          (toMiddlewares (baseAuth sampleEnv sampleDependencies 0))
          sampleHandler sampleRequest "5ca1ab1e" () rest).outcome 0 =
            some (.ok response) ∧
        ∃ requestId, Carries sampleEnv requestId response := by
  have alike := compose_guards.1 Unit
    (toMiddlewares (baseAuth sampleEnv sampleDependencies 0)) sampleHandler
    sampleRequest
    (toMiddlewares_once fun layer member req =>
      once_baseAuth req sampleEnv sampleDependencies 0 layer member)
    "5ca1ab1e" () [0, 0, 1]
  refine ⟨alike.1, ?_⟩
  have guarded := compose_guards.2 Unit sampleEnv sampleDependencies 0
    sampleHandler sampleRequest ⟨"GET", "/api/v1/auth/me"⟩ (by decide) rfl
    sampleDependencies_signs "5ca1ab1e" ()
  obtain ⟨-, -, rest, outcome, resulted⟩ := guarded []
  obtain ⟨response, rfl, carries, -⟩ := (guarded rest).2.1 outcome resulted
  exact ⟨rest, response, resulted, _, carries⟩

end Sample

end ChatBackend.Http
