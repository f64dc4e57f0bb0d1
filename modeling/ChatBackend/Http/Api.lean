import ChatBackend.Chat.Directory
import ChatBackend.Chat.Payloads
import ChatBackend.Effects.Hosting
import ChatBackend.Http.AddressedIds

/-!
# The REST API

The controllers of rooms, messages and users, which stand behind `baseAuth`.
Each of them makes a request of a use case of what the HTTP request says, or
refuses it, performs the use case, and makes a response of the reply.

The requests share the tables and the presence store, which any other request
can change between two operations of one.  What JSON and numbers denote, how
the parameters of a query are found and how replies are written is up to the
runtime.
-/

namespace ChatBackend.Http.Api

open Effects
open Text
open Text.Schema
open Text.Fields
open ChatBackend.Chat.Directory
open ChatBackend.Chat.GroupCreation (jsLength)
open ChatBackend.Chat.Payloads
open ChatBackend.Chat.Requests
open ChatBackend.Chat.Store
open AddressedIds (Url matchSegments)
open RateLimit (subject)

/-! ## Schemas -/

/-- The validation library and the runtime. -/
structure Runtime extends Validation where
  /-- What the check for a URL makes of a string that it accepts. -/
  url : String → Option String
  /-- `Number(value)`, if that is finite. -/
  toNumber : Json → Option Rat
  /-- `new URLSearchParams(query).get(name)` -/
  searchParam : String → String → Option String
  /-- How a reply is written under a name. -/
  stringify : String → DirectoryReply → String

/-- `z.string().….trim()` -/
def trimmed (zod : Validation) (checks : List Check) : Schema String :=
  fun given => (string checks given).map zod.trim

/-- `z.enum` -/
def oneOf {Value : Type} (kind : String) (options : List (String × Value)) :
    Schema Value
  | some (.string text) =>
      match options.find? fun option => option.1 = text with
      | some option => .ok option.2
      | none => .error [⟨[], .expected kind⟩]
  | _ => .error [⟨[], .expected kind⟩]

def nullable {Value : Type} (schema : Schema Value) : Schema (Option Value)
  | some .null => .ok none
  | given => (schema given).map some

def CreateDirectRoomSchema (zod : Validation) : Schema String :=
  .object (field "targetUserId" (uuid zod)) id

/-- The name and the ids of the members. -/
def CreateGroupRoomSchema (zod : Validation) :
    Schema (String × List String) :=
  .object ((field "name" (trimmed zod [atLeast 1, atMost 128])).and
    (field "memberIds" (.default [] (array (uuid zod) 0 99)))) id

/-- The id of the user and the role. -/
def AddMemberSchema (zod : Validation) : Schema (String × RoomRole) :=
  .object ((field "userId" (uuid zod)).and
    (field "role" (.default .member
      (oneOf "admin|member" [("admin", .admin), ("member", .member)])))) id

def RemoveMemberSchema (zod : Validation) : Schema String :=
  .object (field "userId" (uuid zod)) id

def EditMessageSchema : Schema String :=
  .object (field "body" (string [atLeast 1, atMost 4096])) id

/-- `Number.MAX_SAFE_INTEGER` -/
def maxSafeInteger : Int := 9007199254740991

/-- `z.coerce.number().int().min(1).max(100)` -/
def pageSize (runtime : Runtime) : Schema Nat := fun given =>
  match given.bind runtime.toNumber with
  | none => .error [⟨[], .expected "number"⟩]
  | some value =>
      -- what is no integer is not compared with the bounds
      if value.den ≠ 1 then .error [⟨[], .expected "int"⟩]
      else
        let checks : List (Problem × Bool) :=
          [(.tooBig "int" maxSafeInteger, decide (value.num ≤ maxSafeInteger)),
            (.tooSmall "int" (-maxSafeInteger),
              decide (-maxSafeInteger ≤ value.num)),
            (.tooSmall "number" 1, decide (1 ≤ value.num)),
            (.tooBig "number" 100, decide (value.num ≤ 100))]
        match checks.filter fun check => ¬ check.2 with
        | [] => .ok value.num.toNat
        | failed => .error (failed.map fun check => ⟨[], check.1⟩)

/-- The cursor and the size of the page. -/
def ListMessagesQuerySchema (runtime : Runtime) :
    Schema (Option String × Nat) :=
  .object ((field "before" (optional (string []))).and
    (field "limit" (.default 50 (pageSize runtime)))) id

/-- `z.string().url().max(512)` -/
def webAddress (runtime : Runtime) : Schema String
  | some (.string text) =>
      let address := runtime.url text
      -- the length is that of what the check for a URL has made
      let checks : List (Problem × Bool) :=
        [(.format "url", address.isSome),
          (.tooBig "string" 512, decide (jsLength (address.getD text) ≤ 512))]
      match checks.filter fun check => ¬ check.2 with
      | [] => .ok (address.getD text)
      | failed => .error (failed.map fun check => ⟨[], check.1⟩)
  | _ => .error [⟨[], .expected "string"⟩]

def UpdateProfileSchema (runtime : Runtime) : Schema UpdateProfile.Input :=
  .object ((field "displayName"
      (optional (trimmed runtime.toValidation [atLeast 1, atMost 64]))).and
    (field "avatarUrl" (optional (nullable (webAddress runtime)))))
    fun (displayName, avatarUrl) => { displayName, avatarUrl }

/-! ## Controllers -/

/-- What a controller reads of a request, and what is drawn for it. -/
structure Incoming where
  url : Url
  /-- What `req.json()` gives, or the message with which it rejects. -/
  json : Except String Json
  /-- `generateId()` -/
  id : String
  /-- `clock.now()` -/
  now : Time

/-- What `req.json()` gives. -/
def Incoming.body (incoming : Incoming) : Except Thrown Json :=
  incoming.json.mapError .error

/-- `validate`, whose errors are thrown. -/
def validated {Value : Type} (runtime : Runtime) (schema : Schema Value)
    (data : Json) : Except Thrown Value :=
  (validate runtime.toValidation schema (some data)).mapError .failure

/-- An id that is looked for in the URL. -/
def addressed : Option String → Except Thrown String
  | some id => .ok id
  -- the client of the database rejects what is undefined
  | none => .error (.error "UNDEFINED_VALUE: Undefined values are not allowed")

/-- `"name" in value`, which throws for what is no object. -/
def hasKey (name : String) : Json → Except Thrown Bool
  | .object fields => .ok (fields.any fun field => field.1 = name)
  | .array _ => .ok false
  | _ => .error (.failure .typeError)

/--
What a method of a controller makes of a request of a user: a request of a use
case, of whose reply it makes a response.
-/
structure Action where
  understand : Runtime → Incoming → String → Except Thrown DirectoryRequest
  respond : Runtime → DirectoryReply → Response

/-- `Response.json({ name: reply }, { status })` -/
def json (name : String) (status : Nat) (runtime : Runtime)
    (reply : DirectoryReply) : Response where
  status := status
  headers := [("content-type", "application/json")]
  body := .text (runtime.stringify name reply)

/-- `new Response(null, { status: 204 })` -/
def noContent (_ : Runtime) (_ : DirectoryReply) : Response where
  status := 204
  headers := []
  body := .none

namespace RoomsController

def list : Action where
  understand _ _ userId := .ok (.listMyRooms userId)
  respond := json "rooms" 200

def create : Action where
  understand runtime incoming userId := do
    let body ← incoming.body
    let draws := { id := incoming.id, now := incoming.now }
    if ← hasKey "targetUserId" body then
      let targetUserId ← validated runtime
        (CreateDirectRoomSchema runtime.toValidation) body
      return .chat (.createDirectRoom draws userId targetUserId)
    else
      let (name, memberIds) ← validated runtime
        (CreateGroupRoomSchema runtime.toValidation) body
      return .chat (.createGroupRoom draws userId name memberIds)
  respond := json "room" 201

def getOne : Action where
  understand _ incoming userId := do
    let roomId ← addressed (AddressedIds.RoomsController.roomId incoming.url)
    return .getRoom userId roomId
  respond := json "room" 200

def addMember : Action where
  understand runtime incoming userId := do
    let (memberId, role) ← validated runtime
      (AddMemberSchema runtime.toValidation) (← incoming.body)
    let roomId ← addressed (AddressedIds.RoomsController.roomId incoming.url)
    return .chat (.addMember incoming.now userId roomId memberId role)
  respond := json "member" 201

def removeMember : Action where
  understand runtime incoming userId := do
    let memberId ← validated runtime
      (RemoveMemberSchema runtime.toValidation) (← incoming.body)
    let roomId ← addressed (AddressedIds.RoomsController.roomId incoming.url)
    return .chat (.removeMember userId roomId memberId)
  respond := noContent

def delete : Action where
  understand _ incoming userId := do
    let roomId ← addressed (AddressedIds.RoomsController.roomId incoming.url)
    return .chat (.deleteRoom userId roomId)
  respond := noContent

end RoomsController

namespace MessagesController

/-- The parameters of the query, as an object. -/
def query (runtime : Runtime) (url : Url) : Json :=
  .object (["before", "limit"].filterMap fun name =>
    ((url.query.bind fun query => runtime.searchParam query name).map
      fun value => (name, .string value)))

def listByRoom : Action where
  understand runtime incoming userId := do
    let (before, limit) ← validated runtime (ListMessagesQuerySchema runtime)
      (query runtime incoming.url)
    let roomId ←
      addressed (AddressedIds.MessagesController.roomId incoming.url)
    return .chat (.listMessages roomId userId before limit)
  respond := json "messages" 200

def sendToRoom : Action where
  understand runtime incoming userId := do
    let body ← validated runtime SendMessageSchema (← incoming.body)
    let roomId ←
      addressed (AddressedIds.MessagesController.roomId incoming.url)
    return .chat (.sendMessage { id := incoming.id, now := incoming.now }
      (body.toInput roomId userId none))
  respond := json "message" 201

def edit : Action where
  understand runtime incoming userId := do
    let body ← validated runtime EditMessageSchema (← incoming.body)
    let messageId ←
      addressed (AddressedIds.MessagesController.messageId incoming.url)
    return .chat (.editMessage incoming.now userId messageId body)
  respond := json "message" 200

def delete : Action where
  understand _ incoming userId := do
    let messageId ←
      addressed (AddressedIds.MessagesController.messageId incoming.url)
    return .chat (.deleteMessage userId messageId)
  respond := noContent

end MessagesController

namespace UsersController

def getMe : Action where
  understand _ _ userId := .ok (.getUser userId userId)
  respond := json "user" 200

def updateMe : Action where
  understand runtime incoming userId := do
    let body ← validated runtime (UpdateProfileSchema runtime)
      (← incoming.body)
    return .updateProfile userId body
  respond := json "user" 200

/-- The id is what stands behind the last slash of the path. -/
def getById : Action where
  understand _ incoming userId :=
    .ok (.getUser userId (incoming.url.segments.getLast?.getD ""))
  respond := json "user" 200

def list : Action where
  understand _ _ userId := .ok (.listUsers userId)
  respond := json "users" 200

end UsersController

/-- The routes of rooms, messages and users that the server registers. -/
def endpoints : List (Route × Action) :=
  [(⟨"GET", "/api/v1/users"⟩, UsersController.list),
    (⟨"GET", "/api/v1/users/me"⟩, UsersController.getMe),
    (⟨"PATCH", "/api/v1/users/me"⟩, UsersController.updateMe),
    (⟨"GET", "/api/v1/users/:id"⟩, UsersController.getById),
    (⟨"GET", "/api/v1/rooms"⟩, RoomsController.list),
    (⟨"POST", "/api/v1/rooms"⟩, RoomsController.create),
    (⟨"GET", "/api/v1/rooms/:id"⟩, RoomsController.getOne),
    (⟨"DELETE", "/api/v1/rooms/:id"⟩, RoomsController.delete),
    (⟨"POST", "/api/v1/rooms/:id/members"⟩, RoomsController.addMember),
    (⟨"DELETE", "/api/v1/rooms/:id/members"⟩, RoomsController.removeMember),
    (⟨"GET", "/api/v1/rooms/:id/messages"⟩, MessagesController.listByRoom),
    (⟨"POST", "/api/v1/rooms/:id/messages"⟩, MessagesController.sendToRoom),
    (⟨"PATCH", "/api/v1/messages/:id"⟩, MessagesController.edit),
    (⟨"DELETE", "/api/v1/messages/:id"⟩, MessagesController.delete)]

theorem endpoints_registered :
    ∀ endpoint ∈ endpoints, endpoint.1 ∈ baseAuthRoutes := by
  simp only [endpoints, List.forall_mem_cons]
  refine ⟨?_, ?_, ?_, ?_, ?_, ?_, ?_, ?_, ?_, ?_, ?_, ?_, ?_, ?_,
    List.forall_mem_nil _⟩ <;> decide

/-! ## Handlers -/

/-- The clock of the database, the tables and the presence store. -/
abbrev Backend := Time × DirectoryState

/-- What the requests share is the world of their exchanges. -/
def backend : Sharing (Exchange Backend) Time DirectoryState where
  get exchange := exchange.world
  set world exchange := { exchange with world }
  get_set _ _ := rfl
  set_set _ _ _ := rfl

/-- The method of a controller, for an incoming request. -/
def Action.handler (action : Action) (runtime : Runtime) (postgres : Postgres)
    (incoming : Incoming) : RouteHandler Backend := fun _ =>
  .call id fun exchange =>
    match exchange.ctx.userId with
    -- behind the check of the token there is a user
    | none => .fail (.failure .typeError)
    | some userId =>
        match action.understand runtime incoming userId with
        | .error thrown => .fail thrown
        | .ok request =>
            action.respond runtime <$>
              request.program.enact backend (directoryAdapter postgres) .failure

/-- A request that the router hands to an action. -/
structure Hit where
  route : Route
  action : Action
  registered : (route, action) ∈ endpoints
  req : Request
  incoming : Incoming
  method : req.method = route.method
  routed : (matchSegments (AddressedIds.Route.segments route)
    incoming.url.segments).isSome
  /-- What the signer and the limiter answer while the request is served. -/
  dependencies : Dependencies
  /-- What `Date.now()` reads on a refusal. -/
  later : Time
  /-- `crypto.randomUUID()` -/
  randomUUID : String

namespace Hit

variable (env : Env) (runtime : Runtime) (postgres : Postgres) (hit : Hit)

def layers : List (LayerMiddleware Backend) :=
  baseAuth env hit.dependencies hit.later

def handler : RouteHandler Backend :=
  hit.action.handler runtime postgres hit.incoming

/-- `next` of the composed middlewares of the request -/
def launch : Launcher (Exchange Backend) Thrown Response Nat :=
  compose.next (toMiddlewares (hit.layers env)) (hit.handler runtime postgres)
    hit.req

/-- The call of the composed middlewares that serves the request. -/
def call (world : Backend) : Calls Backend Nat :=
  compose (toMiddlewares (hit.layers env)) (hit.handler runtime postgres)
    hit.req hit.randomUUID world

end Hit

/-- Requests that a server serves, none of which has got anywhere. -/
def opened {Name : Type} (env : Env) (runtime : Runtime) (postgres : Postgres)
    (hits : Name → Hit) (state : DirectoryState) :
    Groups Name (Exchange Backend) DirectoryState Thrown Response Nat where
  shared := state
  groups name := (hits name).call env runtime postgres (0, state)

/-- Tasks of the requests move, each at a time of the clock. -/
def served {Name : Type} [DecidableEq Name] (env : Env) (runtime : Runtime)
    (postgres : Postgres) (hits : Name → Hit) (state : DirectoryState)
    (turns : List (Name × Nat × Time)) :
    Groups Name (Exchange Backend) DirectoryState Thrown Response Nat :=
  Transition.run
    (Groups.step backend fun name => (hits name).launch env runtime postgres)
    (opened env runtime postgres hits state) turns

end ChatBackend.Http.Api
