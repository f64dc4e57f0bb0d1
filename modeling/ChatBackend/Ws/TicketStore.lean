import ChatBackend.Auth.TokenStore
import ChatBackend.Collections.Expiring
import ChatBackend.Effects.Interleaving
import ChatBackend.Ws.Registry
import Mathlib.Data.Int.Order.Basic

/-!
# Tickets for the upgrade to a connection

`RedisWsTicketStore` keeps the user id of a ticket under an expiring key, and
`WsGateway.upgrade` lets a request through that presents a ticket or an access
token.  Every command to Redis is atomic: issuing a ticket takes one of them,
consuming it takes two.

The drawn tickets and connection ids, the answer of the server's own `upgrade`
and the verification of access tokens come from outside.
-/

namespace ChatBackend.Ws.TicketStore

open Collections
open Effects
open ChatBackend.Auth.TokenStore
open ChatBackend.Ws.Registry

/-! ## Commands -/

/-- Why Redis rejects a command. -/
inductive RedisError where
  | invalidExpireTime
deriving DecidableEq, Repr

/-- What issuing and consuming tickets and upgrading requests await. -/
inductive TicketOp where
  /-- `SET key value EX ttlSec` -/
  | set (key value : String) (ttlSec : Int)
  | get (key : String)
  | del (key : String)
  | verifyAccess (token : String)
deriving DecidableEq, Repr

abbrev TicketOp.Answer : TicketOp → Type
  | .set _ _ _ => Unit
  | .get _ => Option String
  | .del _ => Unit
  | .verifyAccess _ => Option AccessTokenClaims

abbrev TicketPort : Port where
  Op := TicketOp
  Answer := TicketOp.Answer

abbrev TicketProgram (Result : Type) := Program TicketPort RedisError Result

/-- Await one operation of the port. -/
abbrev TicketOp.await (op : TicketOp) : TicketProgram op.Answer :=
  @Program.perform TicketPort RedisError op

/-- The strings that Redis keeps. -/
abbrev RedisStrings := Expiring String String Time

/-- The signer of access tokens. -/
abbrev VerifyAccess := Time → String → Option AccessTokenClaims

def ticketAdapter (verifyAccess : VerifyAccess) :
    Adapter TicketPort Time RedisStrings RedisError
  | .set key value ttlSec, now, redis =>
      if ttlSec ≤ 0 then .error .invalidExpireTime
      else
        .ok ((),
          redis.put key { value, expiresAt := some (now + ttlSec * 1000) })
  | .get key, now, redis => .ok (redis.get now key, redis)
  | .del key, _, redis => .ok ((), redis.delete key)
  | .verifyAccess token, now, redis => .ok (verifyAccess now token, redis)

/-! ## The ticket store -/

namespace RedisWsTicketStore

def key (ticket : String) : String :=
  "ws:ticket:" ++ ticket

theorem key_injective : Function.Injective key :=
  fun _ _ same => (String.append_right_inj _).mp same

/-- `issue` of the ticket that `crypto.randomUUID` has drawn. -/
def issue (ticket userId : String) (ttlSec : Int) : TicketProgram String := do
  TicketOp.await (.set (key ticket) userId ttlSec)
  return ticket

def consume (ticket : String) : TicketProgram (Option String) := do
  let userId ← TicketOp.await (.get (key ticket))
  match userId with
  | none => return none
  | some id =>
      -- an empty id is falsy
      if id = "" then return some id
      else
        TicketOp.await (.del (key ticket))
        return some id

end RedisWsTicketStore

/-! ## The gateway -/

/-- What an upgrade is asked for with, and what is drawn for it. -/
structure UpgradeRequest where
  ticket : Option String
  token : Option String
  /-- The id that `idGenerator.uuidv7` draws. -/
  connId : String
  /-- The answer of `server.upgrade`. -/
  upgrades : Bool
deriving DecidableEq, Repr

inductive UpgradeAnswer where
  /-- The data of a connection whose room set is empty. -/
  | upgraded (data : Connection)
  | response (message : String) (status : Nat)
deriving DecidableEq, Repr

namespace WsGateway

/-- The end of `upgrade`, once the user id is known. -/
def connect (request : UpgradeRequest) (userId : String) : UpgradeAnswer :=
  if request.upgrades then .upgraded { userId, connId := request.connId }
  else .response "WebSocket upgrade failed" 400

/-- The branch of `upgrade` for a ticket. -/
def upgradeTicket (request : UpgradeRequest) (ticket : String) :
    TicketProgram UpgradeAnswer := do
  let userId ← RedisWsTicketStore.consume ticket
  match userId with
  | none => return .response "Invalid or expired ticket" 401
  | some id =>
      if id = "" then return .response "Invalid or expired ticket" 401
      else return connect request id

/-- The branch of `upgrade` for an access token. -/
def upgradeToken (request : UpgradeRequest) : TicketProgram UpgradeAnswer :=
  match request.token with
  | none => return .response "Missing token or ticket" 401
  | some token =>
      if token = "" then return .response "Missing token or ticket" 401
      else do
        let claims ← TicketOp.await (.verifyAccess token)
        match claims with
        | none => return .response "Invalid or expired token" 401
        | some claims => return connect request claims.sub

def upgrade (request : UpgradeRequest) : TicketProgram UpgradeAnswer :=
  match request.ticket with
  | none => upgradeToken request
  | some ticket =>
      if ticket = "" then upgradeToken request
      else upgradeTicket request ticket

end WsGateway

/-! ## Calls that overlap -/

/-- A call of `IssueWsTicket.execute` or an upgrade request. -/
inductive TicketCall where
  | issue (ticket userId : String) (ttlSec : Int)
  | upgrade (request : UpgradeRequest)
deriving DecidableEq

/-- What a call returns. -/
inductive Outcome where
  | issued (ticket : String)
  | answered (answer : UpgradeAnswer)
deriving DecidableEq

def TicketCall.program : TicketCall → TicketProgram Outcome
  | .issue ticket userId ttlSec =>
      .issued <$> RedisWsTicketStore.issue ticket userId ttlSec
  | .upgrade request => .answered <$> WsGateway.upgrade request

abbrev Calls (Name : Type*) :=
  Config Name TicketPort RedisStrings RedisError Outcome

/-- No ticket is stored, and every call is before its first command. -/
def begin {Name : Type*} (calls : Name → TicketCall) : Calls Name where
  shared := .empty
  threads name := (calls name).program

/-- One turn: the named call issues its next command. -/
abbrev turn {Name : Type*} [DecidableEq Name] (verifyAccess : VerifyAccess) :
    Calls Name → Name × Time → Calls Name :=
  Config.advance (ticketAdapter verifyAccess)

end ChatBackend.Ws.TicketStore
