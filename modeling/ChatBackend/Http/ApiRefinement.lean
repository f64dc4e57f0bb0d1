import ChatBackend.Chat.Confidentiality
import ChatBackend.Http.Api

/-!
# The REST API refines the use cases

A request passes the middlewares, is authenticated, counted against the limit of
its user, validated, and only then runs a use case. Any number of requests are
served together, a task of one after a task of another. What they leave is what
some interleaving of the use cases leaves, and what each is answered is read off
the outcome of its use case.
-/

namespace ChatBackend.Http.Api

open Effects
open LayerProgram (inline)
open Text
open ChatBackend.Chat.Confidentiality (requestedBy)
open ChatBackend.Chat.Directory
open ChatBackend.Chat.MembershipAuthorization (requesterId)
open ChatBackend.Chat.Payloads
open ChatBackend.Chat.Requests
open RateLimit (subject)

/-! ## What is made of a request -/

namespace Hit

variable (env : Env) (runtime : Runtime) (postgres : Postgres) (hit : Hit)

/-- The user of the token of a request. -/
def authenticate : Except Thrown String :=
  match bearerToken hit.req with
  | none => .error (.failure (.authError "Missing authorization token"))
  | some token =>
      match hit.dependencies.verifyAccess token with
      | .error message => .error (.error message)
      | .ok none => .error (.failure (.authError "Invalid or expired token"))
      | .ok (some claims) => .ok claims.sub

/-- Whether the limit admits a request of a user. -/
def limit (userId : String) : Except Thrown Unit :=
  let subject := subject .user
    { userId := some userId
      xForwardedFor := hit.req.headers.get "x-forwarded-for"
      xRealIp := hit.req.headers.get "x-real-ip" }
  match hit.dependencies.consume ("default" ++ ":" ++ subject)
      env.rateLimitDefaultMax env.rateLimitDefaultWindow with
  | .error message => .error (.error message)
  | .ok result =>
      if ¬ result.allowed then
        .error (.failure (.rateLimitError
          (max 0 (result.resetAt - hit.later / 1000))))
      else .ok ()

/-- The request of a use case that is made of an HTTP request, if one is. -/
def intake : Except Thrown DirectoryRequest := do
  let userId ← hit.authenticate
  hit.limit env userId
  hit.action.understand runtime hit.incoming userId

/-- What a request asks of the port, or else what is thrown instead. -/
def asks : Except Thrown DirectoryRequest →
    Program DirectoryPort Failure (Except Thrown DirectoryReply)
  | .ok request => .ok <$> request.program
  | .error thrown => .done (.error thrown)

/-- What the handler and its guards come to. -/
def concluded :
    Except Failure (Except Thrown DirectoryReply) → Except Thrown Response
  | .error failure => .error (.failure failure)
  | .ok (.error thrown) => .error thrown
  | .ok (.ok reply) => .ok (hit.action.respond runtime reply)

/-- The response of the controller, or that to which its error is mapped. -/
def resolved (outcome : Except Failure (Except Thrown DirectoryReply)) :
    Response :=
  match hit.concluded runtime outcome with
  | .ok res => res
  | .error err => mapped err

/-- The id that the request brings, or else the one that is drawn. -/
def identity : String :=
  (hit.req.headers.get "x-request-id").getD hit.randomUUID

/-- The response to a request, by what the use case has come to. -/
def answer (outcome : Except Failure (Except Thrown DirectoryReply)) :
    Response :=
  dressed env hit.req hit.identity (hit.resolved runtime outcome)

end Hit

theorem method_ne_options (hit : Hit) : hit.req.method ≠ "OPTIONS" := by
  rw [hit.method]
  exact not_options_of_route (endpoints_registered _ hit.registered)

/-- The use cases that a server is asked for, none of which has begun. -/
def begun {Name : Type} (env : Env) (runtime : Runtime) (hits : Name → Hit)
    (state : DirectoryState) :
    Config Name DirectoryPort DirectoryState Failure
      (Except Thrown DirectoryReply) where
  shared := state
  threads name := Hit.asks ((hits name).intake env runtime)

/-! ## The user of a request -/

section Understanding

variable {userId : String}

/-- Whatever request is made, it is one of the user. -/
def Yields (userId : String) (made : Except Thrown DirectoryRequest) : Prop :=
  ∀ request, made = .ok request → requestedBy request = userId

theorem Yields.ok {request : DirectoryRequest}
    (own : requestedBy request = userId) : Yields userId (.ok request) := by
  rintro _ ⟨⟩
  exact own

theorem Yields.bind {Value : Type} {first : Except Thrown Value}
    {next : Value → Except Thrown DirectoryRequest}
    (own : ∀ value, Yields userId (next value)) :
    Yields userId (first >>= next) := by
  intro request made
  obtain ⟨value, -, made⟩ := bind_eq_ok_iff.mp made
  exact own value request made

/-- A controller makes requests of the user in the context, and of no other. -/
theorem yields_understand {route : Route} {action : Action}
    (registered : (route, action) ∈ endpoints) (runtime : Runtime)
    (incoming : Incoming) (userId : String) :
    Yields userId (action.understand runtime incoming userId) := by
  have all : ∀ endpoint ∈ endpoints,
      Yields userId (endpoint.2.understand runtime incoming userId) := by
    simp only [endpoints, List.forall_mem_cons]
    refine ⟨.ok rfl, .ok rfl, ?updateMe, .ok rfl, .ok rfl, ?create, ?getOne,
      ?deleteRoom, ?addMember, ?removeMember, ?listByRoom, ?sendToRoom, ?edit,
      ?deleteMessage, List.forall_mem_nil _⟩
    case updateMe => exact .bind fun _ => .bind fun _ => .ok rfl
    case create =>
      refine .bind fun _ => .bind fun direct => ?_
      cases direct with
      | true => exact .bind fun _ => .ok rfl
      | false => exact .bind fun _ => .ok rfl
    case getOne => exact .bind fun _ => .ok rfl
    case deleteRoom => exact .bind fun _ => .ok rfl
    case addMember =>
      exact .bind fun _ => .bind fun _ => .bind fun _ => .ok rfl
    case removeMember =>
      exact .bind fun _ => .bind fun _ => .bind fun _ => .ok rfl
    case listByRoom => exact .bind fun _ => .bind fun _ => .ok rfl
    case sendToRoom =>
      exact .bind fun _ => .bind fun _ => .bind fun _ => .ok rfl
    case edit => exact .bind fun _ => .bind fun _ => .bind fun _ => .ok rfl
    case deleteMessage => exact .bind fun _ => .ok rfl
  exact all (route, action) registered

/-- The request that is made is one of the user whose token it has. -/
theorem yields_intake {env : Env} {runtime : Runtime} {hit : Hit}
    {request : DirectoryRequest}
    (made : hit.intake env runtime = .ok request) :
    hit.authenticate = .ok (requestedBy request) ∧
      hit.limit env (requestedBy request) = .ok () := by
  obtain ⟨userId, authenticated, made⟩ := bind_eq_ok_iff.mp made
  obtain ⟨_, limited, made⟩ := bind_eq_ok_iff.mp made
  rw [yields_understand hit.registered runtime hit.incoming userId request made]
  exact ⟨authenticated, limited⟩

end Understanding

/-! ## The layers host the use case -/

section Layers

variable {env : Env} {runtime : Runtime} {postgres : Postgres} {hit : Hit}
  {Reply : Type}
  {inner : Program DirectoryPort Failure Reply}
  {outer : ActProgram (Exchange Backend) Thrown Response}
  {post : Except Failure Reply → Except Thrown Response →
    Exchange Backend → Prop}
  {own : Exchange Backend} {req : Request} {identity : String}
  {made : Except Failure Reply → Except Thrown Response}

theorem hosts_next
    (hosts : Hosts backend (directoryAdapter postgres) post inner outer own) :
    Hosts backend (directoryAdapter postgres) post inner (inline outer next)
      own := by
  refine hosts.attempt_bind fun inner outcome result own ended holds => ?_
  cases result with
  | ok res => exact .ended ended rfl holds
  | error err => exact .ended ended rfl holds

/-- The request id is kept, and the result is made of the outcome. -/
def Results (requestId : String) (made : Except Failure Reply →
    Except Thrown Response) (outcome : Except Failure Reply)
    (result : Except Thrown Response) (state : Exchange Backend) : Prop :=
  state.ctx.requestId = requestId ∧ result = made outcome

/-- A layer that only changes the response that it is handed. -/
theorem hosts_next_bind {rest : Response → Layer Backend Response}
    {change : Response → Response}
    (changes : ∀ res, rest res = .done (change res))
    (hosts : Hosts backend (directoryAdapter postgres) (Results identity made)
      inner outer own) :
    Hosts backend (directoryAdapter postgres)
      (Results identity fun outcome => (made outcome).map change) inner
      (inline outer (next >>= rest : Layer Backend Response)) own := by
  refine hosts.attempt_bind fun inner outcome result own ended post => ?_
  obtain ⟨kept, rfl⟩ := post
  cases results : made outcome with
  | error err =>
      refine .ended ended rfl ⟨kept, ?_⟩
      beta_reduce
      rw [results]
      rfl
  | ok res =>
      change Hosts backend (directoryAdapter postgres) _ inner
        (inline outer (rest res)) own
      rw [changes]
      refine .ended ended rfl ⟨kept, ?_⟩
      beta_reduce
      rw [results]
      rfl

theorem hosts_requestId
    (hosts : Hosts backend (directoryAdapter postgres) (Results identity made)
      inner outer (identified req own)) :
    Hosts backend (directoryAdapter postgres)
      (Results identity fun outcome =>
        (made outcome).map fun res => res.set "x-request-id" identity) inner
      (inline outer (requestId req)) own := by
  refine .aside (fun _ => rfl) fun _ => ?_
  refine hosts.attempt_bind fun inner outcome result own ended post => ?_
  obtain ⟨rfl, rfl⟩ := post
  cases results : made outcome with
  | error err =>
      refine .ended ended rfl ⟨rfl, ?_⟩
      beta_reduce
      rw [results]
      rfl
  | ok res =>
      refine .aside (fun _ => rfl) fun _ => .ended ended rfl ⟨rfl, ?_⟩
      beta_reduce
      rw [results]
      rfl

theorem hosts_cors (allowedOrigins : List String)
    (asked : req.method ≠ "OPTIONS")
    (hosts : Hosts backend (directoryAdapter postgres) (Results identity made)
      inner outer own) :
    Hosts backend (directoryAdapter postgres)
      (Results identity fun outcome => (made outcome).map fun res =>
        let origin := (req.headers.get "origin").getD ""
        if allowedOrigins = [] ∨ origin ∈ allowedOrigins then
          res.setAll (buildCorsHeaders origin req)
        else res) inner
      (inline outer (cors allowedOrigins req)) own := by
  unfold cors
  rw [if_neg asked]
  refine hosts_next_bind (fun res => ?_) hosts
  dsimp only
  split <;> rfl

theorem hosts_errorMapper
    (hosts : Hosts backend (directoryAdapter postgres) (Results identity made)
      inner outer own) :
    Hosts backend (directoryAdapter postgres)
      (Results identity fun outcome => .ok (match made outcome with
        | .ok res => res
        | .error err => mapped err)) inner
      (inline outer (errorMapper req)) own := by
  refine hosts.attempt_bind fun inner outcome result own ended post => ?_
  obtain ⟨kept, rfl⟩ := post
  cases results : made outcome with
  | error err =>
      refine .ended ended rfl ⟨kept, ?_⟩
      beta_reduce
      rw [results]
  | ok res =>
      refine .ended ended rfl ⟨kept, ?_⟩
      beta_reduce
      rw [results]

theorem hosts_rateLimit {userId : String}
    (named : own.ctx.userId = some userId)
    (admitted : hit.limit env userId = .ok () →
      Hosts backend (directoryAdapter postgres) post inner outer own)
    (refused : ∀ thrown, hit.limit env userId = .error thrown →
      Hosts backend (directoryAdapter postgres) post inner (.fail thrown) own) :
    Hosts backend (directoryAdapter postgres) post inner
      (inline outer (rateLimit hit.dependencies hit.later "default"
        env.rateLimitDefaultMax env.rateLimitDefaultWindow .user hit.req))
      own := by
  unfold Hit.limit at admitted refused
  dsimp only at admitted refused
  rw [← named] at admitted refused
  refine .aside (fun _ => rfl) fun shared => ?_
  change Hosts backend (directoryAdapter postgres) post inner
    (inline outer (awaited .error (hit.dependencies.consume
      ("default" ++ ":" ++ subject .user
        { userId := own.ctx.userId
          xForwardedFor := hit.req.headers.get "x-forwarded-for"
          xRealIp := hit.req.headers.get "x-real-ip" })
      env.rateLimitDefaultMax env.rateLimitDefaultWindow) >>= _ :
        Layer Backend Response)) own
  generalize hit.dependencies.consume _ _ _ = consumed at admitted refused ⊢
  cases consumed with
  | error message => exact refused _ rfl
  | ok result =>
      dsimp only at admitted refused
      cases allowed : result.allowed with
      | true =>
          rw [allowed] at admitted
          change Hosts backend (directoryAdapter postgres) post inner
            (inline outer (if ¬ result.allowed = true then _ else next)) own
          rw [if_neg (by simp [allowed])]
          exact hosts_next (admitted rfl)
      | false =>
          rw [allowed] at refused
          change Hosts backend (directoryAdapter postgres) post inner
            (inline outer (if ¬ result.allowed = true then _ else next)) own
          rw [if_pos (by simp [allowed])]
          exact refused _ rfl

theorem hosts_authMiddleware
    (admitted : ∀ userId, hit.authenticate = .ok userId →
      Hosts backend (directoryAdapter postgres) post inner outer
        { own with ctx := { own.ctx with userId := some userId } })
    (refused : ∀ thrown, hit.authenticate = .error thrown →
      Hosts backend (directoryAdapter postgres) post inner (.fail thrown) own) :
    Hosts backend (directoryAdapter postgres) post inner
      (inline outer (authMiddleware hit.dependencies hit.req)) own := by
  unfold Hit.authenticate at admitted refused
  unfold authMiddleware
  cases given : bearerToken hit.req with
  | none =>
      rw [given] at refused
      exact refused _ rfl
  | some token =>
      rw [given] at admitted refused
      dsimp only at admitted refused ⊢
      rcases verified : hit.dependencies.verifyAccess token with
        message | _ | claims
      · rw [verified] at refused
        exact refused _ rfl
      · rw [verified] at refused
        exact refused _ rfl
      · rw [verified] at admitted
        exact .aside (fun _ => rfl) fun _ => hosts_next (admitted _ rfl)

/-- The handler makes a request of what comes in, or throws. -/
theorem hosts_handler {userId : String}
    (named : own.ctx.userId = some userId) :
    Hosts backend (directoryAdapter postgres)
      (fun outcome result state => state = own ∧
        result = hit.concluded runtime outcome)
      (Hit.asks (hit.action.understand runtime hit.incoming userId))
      (hit.handler runtime postgres hit.req) own := by
  refine .aside (fun _ => rfl) fun shared => ?_
  dsimp only [backend, id]
  rw [named]
  dsimp only
  cases hit.action.understand runtime hit.incoming userId with
  | error thrown => exact .ended rfl rfl ⟨rfl, rfl⟩
  | ok request =>
      have enacted : Hosts backend (directoryAdapter postgres)
          (fun outcome result state => state = own ∧
            ∃ first : Except Failure DirectoryReply,
              outcome = first.map Except.ok ∧
                result = first.mapError Thrown.failure)
          (Except.ok <$> request.program :
            Program DirectoryPort Failure (Except Thrown DirectoryReply))
          (request.program.enact backend (directoryAdapter postgres) .failure)
          own := Hosts.enact _ _ _ _
      refine enacted.map ?_
      rintro _ _ state ⟨rfl, first, rfl, rfl⟩
      refine ⟨rfl, ?_⟩
      cases first <;> rfl

/-- What is asked for is what the guards and the controller make of it. -/
theorem hosts_guards :
    Hosts backend (directoryAdapter postgres)
      (Results own.ctx.requestId (hit.concluded runtime))
      (Hit.asks (hit.intake env runtime))
      (inlined (hit.handler runtime postgres hit.req)
        ((guards env hit.dependencies hit.later).map fun layer =>
          layer hit.req))
      own := by
  refine hosts_authMiddleware (fun userId authenticated => ?_)
    fun thrown refused => ?_
  · refine hosts_rateLimit rfl (fun admitted => ?_) fun thrown refused => ?_
    · have made : hit.intake env runtime =
          hit.action.understand runtime hit.incoming userId := by
        unfold Hit.intake
        rw [authenticated]
        change hit.limit env userId >>= _ = _
        rw [admitted]
        rfl
      rw [made]
      refine (hosts_handler rfl).imp ?_
      rintro outcome result state ⟨rfl, concluded⟩
      exact ⟨rfl, concluded⟩
    · have made : hit.intake env runtime = .error thrown := by
        unfold Hit.intake
        rw [authenticated]
        change hit.limit env userId >>= _ = _
        rw [refused]
        rfl
      rw [made]
      exact .ended rfl rfl ⟨rfl, rfl⟩
  · have made : hit.intake env runtime = .error thrown := by
      unfold Hit.intake
      rw [refused]
      rfl
    rw [made]
    exact .ended rfl rfl ⟨rfl, rfl⟩

/-- The response is the answer to what the use case comes to. -/
theorem hosts_baseAuth (fresh : own.ctx.requestId = hit.randomUUID) :
    Hosts backend (directoryAdapter postgres)
      (fun outcome result _ =>
        result = .ok (hit.answer env runtime outcome))
      (Hit.asks (hit.intake env runtime))
      (inlined (hit.handler runtime postgres hit.req)
        ((hit.layers env).map fun layer => layer hit.req))
      own := by
  have identity : (identified hit.req own).ctx.requestId = hit.identity := by
    unfold identified Hit.identity
    rw [fresh]
  have guarded : Hosts backend (directoryAdapter postgres)
      (Results hit.identity (hit.concluded runtime))
      (Hit.asks (hit.intake env runtime))
      (inlined (hit.handler runtime postgres hit.req)
        ((guards env hit.dependencies hit.later).map fun layer =>
          layer hit.req)) (identified hit.req own) :=
    identity ▸ hosts_guards
  refine (hosts_requestId (hosts_cors env.corsOrigins (method_ne_options hit)
    (hosts_next_bind (fun _ => rfl) (hosts_errorMapper guarded)))).imp ?_
  rintro outcome result state ⟨-, rfl⟩
  rfl

end Layers

/-! ## Any order of moves -/

section Serving

variable {Name : Type} (env : Env) (runtime : Runtime) (postgres : Postgres)
  (hits : Name → Hit) (state : DirectoryState)

theorem once_layers (hit : Hit) :
    ∀ layer ∈ (hit.layers env).map fun layer => layer hit.req,
      LayerProgram.Once layer :=
  forall_once hit.req
    (once_baseAuth hit.req env hit.dependencies hit.later)

theorem follows_launch (hit : Hit) :
    Tasks.Follows ((hit.layers env).map fun layer => layer hit.req).length
      (layerBody ((hit.layers env).map fun layer => layer hit.req)
        (hit.handler runtime postgres hit.req))
      (fun position => position + 1) (hit.launch env runtime postgres) :=
  follows_toMiddlewares (hit.handler runtime postgres) hit.req

/-- Every call of the middlewares embodies what its request asks for. -/
theorem simulates_opened :
    Simulates backend (directoryAdapter postgres)
      (fun name => ((hits name).layers env).map fun layer =>
        layer (hits name).req)
      (fun name => (hits name).handler runtime postgres (hits name).req)
      (fun position => position + 1)
      (fun name outcome result _ =>
        result = .ok ((hits name).answer env runtime outcome))
      (opened env runtime postgres hits state) (begun env runtime hits state)
    where
  shared := rfl
  embodies name := by
    have first : (hits name).call env runtime postgres (0, state) =
        Tasks.first
          (layerBody (((hits name).layers env).map fun layer =>
            layer (hits name).req)
            ((hits name).handler runtime postgres (hits name).req) 0) 1
          (started (hits name).randomUUID (0, state)) :=
      run_toMiddlewares _ _ _ _ []
    have remains := @Remains.first _ _ _ _ _
      ((hits name).handler runtime postgres (hits name).req)
      (fun position => position + 1)
      (once_layers env (hits name))
      (started (hits name).randomUUID ((0, state) : Backend))
    refine ⟨_, started (hits name).randomUUID (0, state), ?_,
      hosts_baseAuth rfl, fun shared => ?_⟩
    · show Remains _ _ _ ((hits name).call env runtime postgres (0, state)) _
      rw [first]
      exact remains
    · show backend.set shared
        ((hits name).call env runtime postgres (0, state)).state = _
      rw [first]
      rfl

variable [DecidableEq Name]

/--
The refinement of the use cases by the REST API.  However the tasks of the
requests interleave, the use cases can interleave in the same order, among them
nothing but turns that were taken, so that the shared state is theirs and every
response is what the layers make of the outcome of its use case.  What is asked
for is asked as the user of the accepted token, and every request can still come
to an end.
-/
theorem rest_refines_use_cases (turns : List (Name × Nat × Time)) :
    let all := served env runtime postgres hits state turns
    (∃ schedule : List (Name × Time),
      schedule.Sublist (turns.map fun turn => (turn.1, turn.2.2)) ∧
      let config :=
        (begun env runtime hits state).play (directoryAdapter postgres) schedule
      all.shared = config.shared ∧
      ∀ name result, (all.groups name).outcome 0 = some result →
        ∃ outcome, (config.threads name).outcome? = some outcome ∧
          result = .ok ((hits name).answer env runtime outcome)) ∧
    (∀ name request, (hits name).intake env runtime = .ok request →
      (hits name).authenticate = .ok (requestedBy request)) ∧
    ∀ (name : Name) (now : Time), ∃ tasks : List Nat, ∃ result,
      ((served env runtime postgres hits state
        (turns ++ tasks.map fun task => (name, task, now))).groups
          name).outcome 0 = some result := by
  intro all
  have once := fun name => once_layers env (hits name)
  have follows := fun name => follows_launch env runtime postgres (hits name)
  refine ⟨?_, fun name request made => (yields_intake made).1, ?_⟩
  · obtain ⟨schedule, among, simulates⟩ :=
      (simulates_opened env runtime postgres hits state).run once follows turns
    refine ⟨schedule, among, simulates.shared, fun name result resulted => ?_⟩
    obtain ⟨outcome, -, ended, same, -⟩ := simulates.outcome resulted
    exact ⟨outcome, ended, same⟩
  · intro name now
    obtain ⟨schedule, -, simulates⟩ :=
      (simulates_opened env runtime postgres hits state).run once follows turns
    obtain ⟨tasks, result, resulted⟩ :=
      simulates.exists_outcome once follows name now
    refine ⟨tasks, result, ?_⟩
    unfold served
    rw [Transition.run_append]
    exact resulted

end Serving

end ChatBackend.Http.Api
