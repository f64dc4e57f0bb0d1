import ChatBackend.Http.GuardedRoutes

/-!
# Checks of the origin

Three places look at the origin of a request: the answer to a preflight request,
the headers of CORS on the other responses, and the choice between a cookie and
a body for the refresh token.

The list of the allowed origins decides only the second of them.  A preflight
request of any other origin is answered with the origin `*`, since no origin
counts as every one; and the third asks whether an allowed origin is a prefix.
-/

namespace ChatBackend.Http.OriginChecks

open Effects
open LayerProgram

/-! ## The checks -/

def isWebClient (corsOrigins : List String) (req : Request) : Bool :=
  req.headers.get "x-client-type" = some "web" ||
    corsOrigins.any fun o =>
      (req.headers.get "origin").any fun origin =>
        o.toList.isPrefixOf origin.toList

/--
The answer to a request that no route takes.  The gateway may take the
connection over, and then answers nothing.
-/
def fetch (corsOrigins : List String) (upgrade : Request → Option Response)
    (pathname : String) (req : Request) : Except Thrown (Option Response) :=
  if pathname = "/ws" then .ok (upgrade req)
  else if req.method = "OPTIONS" then
    (settle (.done { status := 204, headers := [], body := .none })
      [cors corsOrigins req]
      ({ ctx := { requestId := "", userId := none }, world := () } :
        Exchange Unit)).outcome.map some
  else .ok (some (Response.json "Not Found" 404))

/-- What `createServer` composes between the mapping of errors and a handler. -/
inductive Composition where
  | base
  | limited (key : String) (max windowSec : Int)
  | baseAuth
deriving DecidableEq, Repr

section Composed

variable {World : Type}

def Composition.inner (env : Env) (dependencies : Dependencies)
    (later : Time) : Composition → List (LayerMiddleware World)
  | base => []
  | limited key max windowSec =>
      [rateLimit dependencies later key max windowSec .ip]
  | baseAuth => guards env dependencies later

def Composition.layers (env : Env) (dependencies : Dependencies)
    (later : Time) (composition : Composition) :
    List (LayerMiddleware World) :=
  requestId :: cors env.corsOrigins :: securityHeaders env.production ::
    errorMapper :: composition.inner env dependencies later

theorem layers_baseAuth (env : Env) (dependencies : Dependencies)
    (later : Time) :
    (Composition.baseAuth.layers env dependencies later :
        List (LayerMiddleware World)) =
      Http.baseAuth env dependencies later :=
  rfl

end Composed

/-- The response lets a page of the origin read it. -/
def Grants (origin : String) (response : Response) : Prop :=
  response.headers.get "Access-Control-Allow-Origin" = some "*" ∨
    response.headers.get "Access-Control-Allow-Origin" = some origin

/-- The responses of a handler leave the origin to the middleware. -/
def Silent {World : Type} (handler : RouteHandler World) : Prop :=
  ∀ req exchange response,
    (settle (handler req) [] exchange).outcome = .ok response →
      response.headers.get "Access-Control-Allow-Origin" = none

/-- All three checks are whether the origin is in the list. -/
structure OneDecision (corsOrigins : List String) (origin : String)
    (preflight actual : Response) (webClient : Bool) : Prop where
  preflight : Grants origin preflight ↔ origin ∈ corsOrigins
  actual : Grants origin actual ↔ origin ∈ corsOrigins
  webClient : webClient = true ↔ origin ∈ corsOrigins

/-! ## The preflight request -/

section Headers

variable {corsOrigins : List String} {origin : String}

theorem names_buildCorsHeaders_nodup (origin : String) (req : Request) :
    (names (buildCorsHeaders origin req)).Nodup := by
  have fixed : names (buildCorsHeaders origin req) =
      names (buildCorsHeaders "" { method := "", headers := [] }) := rfl
  rw [fixed]
  decide

/-- The headers of CORS name the origin, or every one in place of none. -/
theorem get_buildCorsHeaders (origin : String) (req : Request)
    (response : Response) :
    (response.setAll (buildCorsHeaders origin req)).headers.get
        "Access-Control-Allow-Origin" =
      some (if origin = "" then "*" else origin) :=
  @get_setAll_of_mem _ (names_buildCorsHeaders_nodup origin req)
    ("Access-Control-Allow-Origin", if origin = "" then "*" else origin)
    (List.mem_cons_self ..) response

theorem grants_buildCorsHeaders (origin : String) (req : Request)
    (response : Response) :
    Grants origin (response.setAll (buildCorsHeaders origin req)) := by
  unfold Grants
  rw [get_buildCorsHeaders]
  split
  · exact .inl rfl
  · exact .inr rfl

/-- Whatever the list says, the answer lets the origin read. -/
theorem exists_preflight {asked : Request} {pathname : String}
    (upgrade : Request → Option Response) (options : asked.method = "OPTIONS")
    (elsewhere : pathname ≠ "/ws")
    (sent : asked.headers.get "origin" = some origin) :
    ∃ preflight,
      fetch corsOrigins upgrade pathname asked = .ok (some preflight) ∧
        Grants origin preflight := by
  unfold fetch
  rw [if_neg elsewhere, if_pos options, settle]
  unfold cors
  rw [if_pos options, sent, Option.getD_some]
  refine ⟨_, rfl, ?_⟩
  split_ifs
  · exact grants_buildCorsHeaders origin asked _
  · refine .inl ?_
    rw [get_buildCorsHeaders, if_pos rfl]

end Headers

/-! ## The other responses -/

section Passing

variable {World : Type} {req : Request}
  {inner : Exchange World → Settled (Exchange World) Thrown Response}
  {exchange : Exchange World} {response : Response}

/-- Whatever the layer answers with, it is an answer of the inner layers. -/
def PassesOn (layer : Layer World Response) : Prop :=
  ∀ (inner : Exchange World → Settled (Exchange World) Thrown Response)
    (exchange : Exchange World) (response : Response),
      (evaluate inner layer exchange).outcome = .ok response →
        ∃ handed, (inner handed).outcome = .ok response

theorem passesOn_authMiddleware (req : Request) (dependencies : Dependencies) :
    PassesOn (authMiddleware dependencies req : Layer World Response) := by
  intro inner exchange response answered
  rw [evaluate_authMiddleware] at answered
  split at answered
  · cases answered
  · split at answered
    · cases answered
    · cases answered
    · exact ⟨_, answered⟩

theorem passesOn_rateLimit (req : Request) (dependencies : Dependencies)
    (later : Time) (key : String) (max windowSec : Int) (keyBy : RateLimit.KeyBy) :
    PassesOn (rateLimit dependencies later key max windowSec keyBy req :
      Layer World Response) := by
  intro inner exchange response answered
  rw [evaluate_rateLimit] at answered
  split at answered
  · cases answered
  · split_ifs at answered
    exact ⟨_, answered⟩

theorem passesOn_inner (env : Env) (dependencies : Dependencies)
    (later : Time) (composition : Composition) (req : Request) :
    ∀ layer ∈ (composition.inner env dependencies later :
      List (LayerMiddleware World)), PassesOn (layer req) := by
  cases composition with
  | base => exact List.forall_mem_nil _
  | limited key max windowSec =>
      exact List.forall_mem_singleton.mpr
        (passesOn_rateLimit req dependencies later key max windowSec .ip)
  | baseAuth =>
      exact List.forall_mem_cons.mpr
        ⟨passesOn_authMiddleware req dependencies,
          List.forall_mem_singleton.mpr
            (passesOn_rateLimit req dependencies later _ _ _ .user)⟩

/-- Through layers that pass on, an answer is one of the handler. -/
theorem handled_of_passesOn {layers : List (LayerMiddleware World)}
    (handler : RouteHandler World)
    (passes : ∀ layer ∈ layers, PassesOn (layer req))
    (answered : (settle (handler req) (layers.map fun layer => layer req)
      exchange).outcome = .ok response) :
    ∃ handed, (settle (handler req) [] handed).outcome = .ok response := by
  induction layers generalizing exchange with
  | nil => exact ⟨exchange, answered⟩
  | cons layer layers induction =>
      rw [List.forall_mem_cons] at passes
      obtain ⟨handed, inside⟩ := passes.1 _ exchange response answered
      exact induction passes.2 inside

theorem once_layers (env : Env) (dependencies : Dependencies) (later : Time)
    (composition : Composition) (req : Request) :
    ∀ layer ∈ (composition.layers env dependencies later :
      List (LayerMiddleware World)), Once (layer req) := by
  have inner : ∀ layer ∈ (composition.inner env dependencies later :
      List (LayerMiddleware World)), Once (layer req) := by
    cases composition with
    | base => exact List.forall_mem_nil _
    | limited key max windowSec =>
        exact List.forall_mem_singleton.mpr
          (once_rateLimit req dependencies later key max windowSec .ip)
    | baseAuth =>
        exact List.forall_mem_cons.mpr
          ⟨once_authMiddleware req dependencies,
            List.forall_mem_singleton.mpr
              (once_rateLimit req dependencies later _ _ _ .user)⟩
  simp only [Composition.layers, List.forall_mem_cons]
  exact ⟨once_requestId req, once_cors req _, once_securityHeaders req _,
    once_errorMapper req, inner⟩

end Passing

section Actual

variable {env : Env} {req : Request} {origin : String} {response : Response}

theorem get_mapped (thrown : Thrown) :
    (mapped thrown).headers.get "Access-Control-Allow-Origin" = none := by
  rcases thrown with failure | message
  · cases failure with
    | rateLimitError retryAfter =>
        exact (Headers.get_set_of_ne (by decide)).trans (by decide)
    | _ => exact (by decide :
        Headers.get [("content-type", "application/json")]
          "Access-Control-Allow-Origin" = none)
  · exact (by decide :
      Headers.get [("content-type", "application/json")]
        "Access-Control-Allow-Origin" = none)

/-- A silent response gets the header of an origin in the list. -/
theorem grants_dressed_iff (requestId : String)
    (nonempty : env.corsOrigins ≠ [])
    (sent : req.headers.get "origin" = some origin)
    (silent : response.headers.get "Access-Control-Allow-Origin" = none) :
    Grants origin (dressed env req requestId response) ↔
      origin ∈ env.corsOrigins := by
  have secured : (response.setAll (securityEntries env.production)).headers.get
      "Access-Control-Allow-Origin" = none := by
    rw [get_setAll_of_not_mem, silent]
    cases env.production <;> decide
  unfold dressed Grants
  dsimp only [Response.set]
  rw [Headers.get_set_of_ne (by decide), sent, Option.getD_some]
  by_cases listed : origin ∈ env.corsOrigins
  · rw [if_pos (.inr listed)]
    exact iff_of_true (grants_buildCorsHeaders origin req _) listed
  · rw [if_neg (not_or.mpr ⟨nonempty, listed⟩), secured]
    exact iff_of_false (by simp) listed

end Actual

/-! ## The client of the web -/

theorem isWebClient_iff {corsOrigins : List String} {req : Request}
    {origin : String} (sent : req.headers.get "origin" = some origin)
    (untyped : req.headers.get "x-client-type" = none) :
    isWebClient corsOrigins req = true ↔
      ∃ o ∈ corsOrigins, o.toList <+: origin.toList := by
  unfold isWebClient
  rw [sent, untyped]
  simp

/--
The three checks decide alike exactly for the origins in the list: a preflight
request of any other one is granted as well.
-/
theorem one_decision_iff :
    ∀ (env : Env), env.corsOrigins ≠ [] → ∀ (origin : String) (asked req : Request),
      asked.method = "OPTIONS" → asked.headers.get "origin" = some origin →
      req.method ≠ "OPTIONS" → req.headers.get "origin" = some origin →
      req.headers.get "x-client-type" = none →
    ∀ (upgrade : Request → Option Response) (pathname : String),
      pathname ≠ "/ws" →
      ∃ preflight,
        fetch env.corsOrigins upgrade pathname asked = .ok (some preflight) ∧
          ∀ (World : Type) (composition : Composition)
            (dependencies : Dependencies) (later : Time)
            (handler : RouteHandler World), Silent handler →
          ∀ (randomUUID : String) (world : World) (schedule : List Nat),
            let composed := compose.run
              (toMiddlewares (composition.layers env dependencies later))
              handler req randomUUID world
            (∀ outcome, (composed schedule).outcome 0 = some outcome →
              ∃ actual, outcome = .ok actual ∧
                (OneDecision env.corsOrigins origin preflight actual
                    (isWebClient env.corsOrigins req) ↔
                  origin ∈ env.corsOrigins)) ∧
              ∃ rest outcome,
                (composed (schedule ++ rest)).outcome 0 = some outcome := by
  intro env nonempty origin asked req options askedOrigin other sent untyped
    upgrade pathname elsewhere
  obtain ⟨preflight, answered, granted⟩ :=
    @exists_preflight env.corsOrigins origin asked pathname upgrade options
      elsewhere askedOrigin
  refine ⟨preflight, answered, ?_⟩
  intro World composition dependencies later handler silent randomUUID world
    schedule composed
  have once := @once_layers World env dependencies later composition req
  refine ⟨fun outcome resulted => ?_,
    exists_outcome_compose handler req once randomUUID world schedule⟩
  obtain ⟨same, -⟩ :=
    settle_of_compose handler req once randomUUID world resulted
  rw [Composition.layers, settle_mapped env handler req _ _ other] at same
  refine ⟨_, same.symm, ?_⟩
  constructor
  · intro decision
    exact decision.preflight.mp granted
  · intro listed
    refine ⟨iff_of_true granted listed, ?_, iff_of_true ?_ listed⟩
    · apply grants_dressed_iff _ nonempty sent
      split
      · next response settled =>
          obtain ⟨handed, handled⟩ := handled_of_passesOn handler
            (passesOn_inner env dependencies later composition req) settled
          exact silent req handed response handled
      · exact get_mapped _
    · exact (isWebClient_iff sent untyped).mpr
        ⟨origin, listed, List.prefix_rfl⟩

section Sample

/-- A page of one origin is allowed. -/
def pageEnv : Env where
  corsOrigins := ["https://app.example"]
  production := true
  rateLimitDefaultMax := 120
  rateLimitDefaultWindow := 60

def requestOf (method origin : String) : Request where
  method := method
  headers := [("origin", origin)]

def emptyHandler : RouteHandler Unit := fun _ =>
  .done { status := 204, headers := [], body := .none }

theorem silent_emptyHandler : Silent emptyHandler := by
  intro req exchange response answered
  cases answered
  rfl

/-- An origin that only extends the allowed one passes two checks. -/
theorem origin_extended :
    let origin := "https://app.example.evil"
    origin ∉ pageEnv.corsOrigins ∧
      (∃ preflight,
        fetch pageEnv.corsOrigins (fun _ => none) "/api/v1/auth/login"
            (requestOf "OPTIONS" origin) = .ok (some preflight) ∧
          Grants origin preflight) ∧
      isWebClient pageEnv.corsOrigins (requestOf "POST" origin) = true := by
  dsimp only
  refine ⟨by decide, ⟨_, rfl, .inl (by decide)⟩, by decide⟩

theorem one_decision_iff_listed :
    let origin := "https://app.example"
    ∃ preflight,
      fetch pageEnv.corsOrigins (fun _ => none) "/api/v1/auth/login"
          (requestOf "OPTIONS" origin) = .ok (some preflight) ∧
        ∃ rest actual,
          (compose.run
            (toMiddlewares (Composition.baseAuth.layers pageEnv
              sampleDependencies 0))
            emptyHandler (requestOf "POST" origin) "5ca1ab1e" () rest).outcome 0 =
              some (.ok actual) ∧
            OneDecision pageEnv.corsOrigins origin preflight actual
              (isWebClient pageEnv.corsOrigins (requestOf "POST" origin)) := by
  dsimp only
  obtain ⟨preflight, answered, decides⟩ := one_decision_iff pageEnv
    (by decide) "https://app.example"
    (requestOf "OPTIONS" "https://app.example")
    (requestOf "POST" "https://app.example") (by decide) (by decide)
    (by decide) (by decide) (by decide) (fun _ => none) "/api/v1/auth/login"
    (by decide)
  have composed := decides Unit .baseAuth sampleDependencies 0 emptyHandler
    silent_emptyHandler "5ca1ab1e" ()
  obtain ⟨-, rest, outcome, resulted⟩ := composed []
  obtain ⟨actual, rfl, agrees⟩ := (composed rest).1 outcome resulted
  exact ⟨preflight, answered, rest, actual, resulted,
    agrees.mpr (by decide)⟩

end Sample

end ChatBackend.Http.OriginChecks
