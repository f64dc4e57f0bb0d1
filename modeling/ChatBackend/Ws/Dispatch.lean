import ChatBackend.Chat.Payloads
import ChatBackend.Effects.Traces
import ChatBackend.Http.Compose
import ChatBackend.Ws.FailedSubscriptions
import ChatBackend.Ws.PresenceStore

/-!
# Dispatched envelopes

`EventRouter.dispatch` parses an envelope, hands it to the handler of its type
and answers for what the handler throws.  A handler replies once if it ends, and
not at all if it throws, so the client gets one reply, unless it notifies a room
of typing without being a member.

A reply carries the `refId` of the envelope.  A client that marks its envelope
with an `id`, as it is told to, finds its mark in no reply.
-/

namespace ChatBackend.Ws.Dispatch

open Effects
open Effects.Program
open Text (Json)
open ChatBackend.Chat.Store
open ChatBackend.Chat.RoomUseCases
open ChatBackend.Chat.MessageUseCases
open ChatBackend.Chat.Payloads
open ChatBackend.Chat.Requests
open ChatBackend.Http (Thrown)
open ChatBackend.Ws.Registry
open ChatBackend.Ws.PresenceStore
open ChatBackend.Ws.Gateway (errorReply)

/-! ## Replies -/

/-- What a direct reply carries. -/
inductive ReplyPayload where
  | sent (id : String) (createdAt : Time)
  | edited (id : String) (editedAt : Option Time)
  | deleted (messageId : String)
  | read (roomId messageId : String)
  | subscribed (roomIds : List String)
  | unsubscribed (roomIds : List String)
  /-- `{}` -/
  | nothing
  | heartbeat (ts : Time)
  | error (code message : String)
deriving DecidableEq, Repr

/-- A pong has no payload. -/
structure Reply where
  type : String
  refId : Option String
  payload : Option ReplyPayload
  ts : Time
deriving DecidableEq, Repr

/-! ## What the handlers await -/

inductive RouterOp where
  | chat (op : ChatOp)
  | presence (op : PresenceOp)
  /-- `ws.data.rooms.has(roomId)` -/
  | hasRoom (ws : Connection) (roomId : String)
  | subscribeRoom (ws : Connection) (roomId : String)
  | unsubscribeRoom (ws : Connection) (roomId : String)
  /-- `Date.now()` -/
  | now
  | send (ws : Connection) (reply : Reply)
deriving DecidableEq

/-- What may be thrown is answered with the error. -/
abbrev RouterOp.Answer : RouterOp → Type
  | .chat op => Except Thrown op.Answer
  | .presence op => Except Thrown op.Answer
  | .hasRoom _ _ => Bool
  | .subscribeRoom _ _ => Except Thrown Unit
  | .unsubscribeRoom _ _ => Unit
  | .now => Time
  | .send _ _ => Unit

abbrev RouterPort : Port where
  Op := RouterOp
  Answer := RouterOp.Answer

abbrev RouterProgram (Result : Type) := Program RouterPort Thrown Result

def chatCalls : ChatPort.Fallible RouterPort Thrown where
  op := .chat
  answer _ answered := answered

def presenceCalls : PresencePort.Fallible RouterPort Thrown where
  op := .presence
  answer _ answered := answered

section Calls

variable {Error Value Result : Type}

def chat (program : ChatProgram Result) : RouterProgram Result :=
  program.raise chatCalls .failure

def presence (program : PresenceProgram Result) : RouterProgram Result :=
  program.raise presenceCalls Empty.elim

/-- `validate` throws the issues of a payload. -/
def validated (zod : Validation) (schema : Text.Schema Value)
    (data : Option Json) : RouterProgram Value :=
  match validate zod schema data with
  | .ok value => .done value
  | .error failure => .fail (.failure failure)

def hasRoom (ws : Connection) (roomId : String) : RouterProgram Bool :=
  .call (RouterOp.hasRoom ws roomId) .done

def subscribeRoom (ws : Connection) (roomId : String) : RouterProgram Unit :=
  .call (RouterOp.subscribeRoom ws roomId) fun
    | .ok () => .done ()
    | .error error => .fail error

def unsubscribeRoom (ws : Connection) (roomId : String) : RouterProgram Unit :=
  .call (RouterOp.unsubscribeRoom ws roomId) .done

def now : Program RouterPort Error Time :=
  .call RouterOp.now .done

def send (ws : Connection) (reply : Reply) : Program RouterPort Error Unit :=
  .call (RouterOp.send ws reply) .done

def buildAck (refId : Option String) (payload : ReplyPayload) :
    Program RouterPort Error Reply := do
  let ts ← now
  return { type := "ack", refId, payload := some payload, ts }

def buildError (refId : Option String) (code message : String) :
    Program RouterPort Error Reply := do
  let ts ← now
  return { type := "error", refId, payload := some (.error code message), ts }

end Calls

/-! ## The handlers -/

/-- What the router was made with, and what a call of it draws. -/
structure Router where
  /-- What `JSON.parse` makes of a text, unless it throws. -/
  parse : String → Option Json
  zod : Validation
  presenceTtlSec : Int
  draws : SendMessage.Draws

section Handlers

variable (router : Router) (ws : Connection) (envelope : ClientEnvelope)

def handlePing : RouterProgram Unit := do
  let ts ← now
  send ws { type := "pong", refId := envelope.refId, payload := none, ts }

/-- The loop of `handleChatSubscribe`, with the ids it has subscribed. -/
def subscribeMember : List String → List String → RouterProgram (List String)
  | [], subscribed => return subscribed
  | roomId :: rest, subscribed => do
      match ← chat (roomRepo.getMember roomId ws.userId) with
      | none => subscribeMember rest subscribed
      | some _ =>
          if ← hasRoom ws roomId then
            subscribeMember rest (subscribed ++ [roomId])
          else
            subscribeRoom ws roomId
            subscribeMember rest (subscribed ++ [roomId])

def handleChatSubscribe : RouterProgram Unit := do
  let roomIds ← validated router.zod (ChatSubscribePayloadSchema router.zod)
    envelope.payload
  let subscribed ← subscribeMember ws roomIds []
  let ack ← buildAck envelope.refId (.subscribed subscribed)
  send ws ack

def unsubscribeRooms : List String → RouterProgram Unit
  | [] => return
  | roomId :: rest => do
      unsubscribeRoom ws roomId
      unsubscribeRooms rest

def handleChatUnsubscribe : RouterProgram Unit := do
  let roomIds ← validated router.zod (ChatUnsubscribePayloadSchema router.zod)
    envelope.payload
  unsubscribeRooms ws roomIds
  let ack ← buildAck envelope.refId (.unsubscribed roomIds)
  send ws ack

def handleChatSend : RouterProgram Unit := do
  let payload ← validated router.zod (ChatSendPayloadSchema router.zod)
    envelope.payload
  let msg ← chat (SendMessage.execute router.draws
    (payload.toInput payload.roomId ws.userId envelope.refId))
  let ack ← buildAck envelope.refId (.sent msg.id msg.createdAt)
  send ws ack

def handleChatEdit : RouterProgram Unit := do
  let (messageId, body) ← validated router.zod
    (ChatEditPayloadSchema router.zod) envelope.payload
  let msg ← chat (EditMessage.execute router.draws.now ws.userId messageId body)
  let ack ← buildAck envelope.refId (.edited msg.id msg.editedAt)
  send ws ack

def handleChatDelete : RouterProgram Unit := do
  let messageId ← validated router.zod (ChatDeletePayloadSchema router.zod)
    envelope.payload
  chat (DeleteMessage.execute ws.userId messageId)
  let ack ← buildAck envelope.refId (.deleted messageId)
  send ws ack

def handleChatRead : RouterProgram Unit := do
  let (roomId, messageId) ← validated router.zod
    (ChatReadPayloadSchema router.zod) envelope.payload
  chat (MarkAsRead.execute ws.userId roomId messageId)
  let ack ← buildAck envelope.refId (.read roomId messageId)
  send ws ack

def handleChatTyping : RouterProgram Unit := do
  let roomId ← validated router.zod (ChatTypingPayloadSchema router.zod)
    envelope.payload
  if ← chat (Chat.MessageUseCases.handleChatTyping ws.userId roomId) then
    let ack ← buildAck envelope.refId .nothing
    send ws ack

def handlePresenceHeartbeat : RouterProgram Unit := do
  presence (Heartbeat.execute router.draws.now ws.userId ws.connId
    router.presenceTtlSec)
  let ts ← now
  let ack ← buildAck envelope.refId (.heartbeat ts)
  send ws ack

/-- The `switch` of `dispatch`. -/
def handle : RouterProgram Unit :=
  match envelope.type with
  | "ping" => handlePing ws envelope
  | "chat.subscribe" => handleChatSubscribe router ws envelope
  | "chat.unsubscribe" => handleChatUnsubscribe router ws envelope
  | "chat.send" => handleChatSend router ws envelope
  | "chat.edit" => handleChatEdit router ws envelope
  | "chat.delete" => handleChatDelete router ws envelope
  | "chat.read" => handleChatRead router ws envelope
  | "chat.typing" => handleChatTyping router ws envelope
  | "presence.heartbeat" => handlePresenceHeartbeat router ws envelope
  | type => do
      let unknown ← buildError envelope.refId "UNKNOWN_TYPE"
        ("Unknown event type: " ++ type)
      send ws unknown

/-- The code and the message of what a handler has thrown. -/
def thrownReply : Thrown → String × String
  | .failure failure => errorReply failure
  | .error _ => ("INTERNAL_ERROR", "Internal server error")

def dispatch (raw : String) : Program RouterPort Empty Unit :=
  match parseEnvelope router.parse raw with
  | .error _ => do
      let invalid ← buildError none "INVALID_ENVELOPE" "Invalid message format"
      send ws invalid
  | .ok envelope => do
      match ← (handle router ws envelope).attempt with
      | .ok () => return
      | .error err =>
          let (code, message) := thrownReply err
          let answer ← buildError envelope.refId code message
          send ws answer

end Handlers

/-! ## The server -/

/-- The tables, the registry, and the direct replies that were sent. -/
structure RouterState where
  chat : ChatState
  presence : PresenceState
  server : Server
  sent : List (Connection × Reply)

/-- What the surroundings contribute to an operation. -/
structure Moment where
  now : Time
  /-- What the rest of the server has done since the operation before. -/
  elsewhere : RouterState → RouterState
  /-- What breaks an operation that can fail. -/
  failure : Option Thrown
  /-- With which error Redis rejects a subscription, should one be sent. -/
  rejection : Option String

/-- An operation that fails is answered with its error. -/
def attempted {Answer State Error : Type} (failure : Option Thrown)
    (thrown : Error → Thrown) (attempt : Except Error (Answer × State))
    (state : State) : Except Thrown Answer × State :=
  match failure with
  | some failure => (.error failure, state)
  | none =>
      match attempt with
      | .ok (answer, after) => (.ok answer, after)
      | .error error => (.error (thrown error), state)

def routerAdapter (uuid : PgUuid) :
    Adapter RouterPort Moment RouterState Empty := fun op moment before =>
  let state := moment.elsewhere before
  match op with
  | .chat op =>
      let (answer, chat) := attempted moment.failure .failure
        (chatAdapter uuid op moment.now state.chat) state.chat
      .ok (answer, { state with chat })
  | .presence op =>
      let (answer, presence) := attempted moment.failure Empty.elim
        (presenceAdapter op moment.now state.presence) state.presence
      .ok (answer, { state with presence })
  | .hasRoom ws roomId => .ok (decide (roomId ∈ state.server.rooms ws), state)
  | .subscribeRoom ws roomId =>
      let (returned, server) := FailedSubscriptions.subscribeRoom state.server
        ws roomId moment.rejection.isNone
      .ok (if returned then .ok () else
        .error (.error (moment.rejection.getD "")), { state with server })
  | .unsubscribeRoom ws roomId =>
      .ok ((), { state with server := state.server.unsubscribeRoom ws roomId })
  | .now => .ok (moment.now, state)
  | .send ws reply =>
      .ok ((), { state with sent := state.sent ++ [(ws, reply)] })

/-! ## Specification -/

/-- The direct replies in a trace. -/
def replies (trace : Trace RouterPort) : List (Connection × Reply) :=
  trace.filterMap fun answered =>
    match answered.1 with
    | .send ws reply => some (ws, reply)
    | _ => none

/-- There is one reply, to the connection and with the reference. -/
def OneReply (ws : Connection) (refId : Option String)
    (sent : List (Connection × Reply)) : Prop :=
  ∃ reply, sent = [(ws, reply)] ∧ reply.type ∈ ["ack", "pong", "error"] ∧
    reply.refId = refId

/-- The lookup of the user's membership. -/
abbrev lookup (ws : Connection) (roomId : String) : RouterOp :=
  .chat (.roomRepo (.getMember roomId ws.userId))

/-- The rooms and the users that were found not to be members of them. -/
def strangers (trace : Trace RouterPort) : List (String × String) :=
  trace.filterMap fun
    | ⟨.chat (.roomRepo (.getMember roomId userId)), .ok none⟩ =>
        some (roomId, userId)
    | _ => none

/-- Typing in a room of which the user was found not to be a member. -/
def TypesElsewhere (router : Router) (ws : Connection)
    (envelope : ClientEnvelope) (trace : Trace RouterPort) : Prop :=
  envelope.type = "chat.typing" ∧ ∃ roomId,
    ChatTypingPayloadSchema router.zod envelope.payload = .ok roomId ∧
      (roomId, ws.userId) ∈ strangers trace

/-! ## Programs that do not reply -/

def Quiet : RouterOp → Prop
  | .send _ _ => False
  | _ => True

section Quiet

variable {Result Value : Type} {trace : Trace RouterPort}

theorem replies_append (first second : Trace RouterPort) :
    replies (first ++ second) = replies first ++ replies second :=
  List.filterMap_append

theorem replies_quiet {op : RouterOp} (quiet : Quiet op) (answer : op.Answer) :
    replies [⟨op, answer⟩] = [] := by
  cases op with
  | send ws reply => exact quiet.elim
  | _ => rfl

theorem chat_quiet (program : ChatProgram Result) :
    (chat program).Issues Quiet :=
  issues_raise _ program fun _ => trivial

theorem presence_quiet (program : PresenceProgram Result) :
    (presence program).Issues Quiet :=
  issues_raise _ program fun _ => trivial

theorem validated_quiet (zod : Validation) (schema : Text.Schema Value)
    (data : Option Json) : (validated zod schema data).Issues Quiet := by
  unfold validated
  cases validate zod schema data <;> trivial

theorem subscribeMember_quiet (ws : Connection) (roomIds subscribed : List String) :
    (subscribeMember ws roomIds subscribed).Issues Quiet := by
  induction roomIds generalizing subscribed with
  | nil => trivial
  | cons roomId rest induction =>
      refine Issues.bind (chat_quiet _) fun member => ?_
      cases member with
      | none => exact induction subscribed
      | some member =>
          refine Issues.perform_bind trivial fun joined => ?_
          cases joined with
          | true => exact induction _
          | false =>
              refine Issues.bind ?_ fun _ => induction _
              refine ⟨trivial, fun answer => ?_⟩
              cases answer <;> trivial

theorem unsubscribeRooms_quiet (ws : Connection) (roomIds : List String) :
    (unsubscribeRooms ws roomIds).Issues Quiet := by
  induction roomIds with
  | nil => trivial
  | cons roomId rest induction =>
      exact Issues.perform_bind trivial fun _ => induction

end Quiet

/-! ## Handlers reply once or throw -/

/-- What ends has replied, and what throws has not. -/
def Handled (ws : Connection) (refId : Option String)
    (trace : Trace RouterPort) : Except Thrown Unit → Prop
  | .ok () => OneReply ws refId (replies trace)
  | .error _ => replies trace = []

section Handled

variable {Result : Type} {router : Router} {ws : Connection}
  {envelope : ClientEnvelope} {refId : Option String}
  {trace : Trace RouterPort}

/-- What a reply adds to a trace: a look at the clock, and the reply. -/
theorem oneReply_answered {reply : Reply} {ts : Time}
    (silent : replies trace = [])
    (kind : reply.type ∈ ["ack", "pong", "error"]) :
    OneReply ws reply.refId
      (replies (trace ++ [⟨.now, ts⟩] ++ [⟨.send ws reply, ()⟩])) := by
  rw [replies_append, replies_append, silent]
  exact ⟨reply, rfl, kind, rfl⟩

theorem strangers_answered {reply : Reply} {ts : Time} :
    strangers (trace ++ [⟨.now, ts⟩] ++ [⟨.send ws reply, ()⟩]) =
      strangers trace := by
  unfold strangers
  rw [List.filterMap_append, List.filterMap_append]
  exact (List.append_nil _).trans (List.append_nil _)

/-- A quiet part leaves the reply to the rest. -/
theorem quiet_bind {program : RouterProgram Result}
    {continuation : Result → RouterProgram Unit}
    (quiet : program.Issues Quiet) (silent : replies trace = [])
    (goesOn : ∀ result trace, replies trace = [] →
      (continuation result).Concludes (Handled ws refId) trace) :
    (program >>= continuation).Concludes (Handled ws refId) trace := by
  have kept (op : RouterOp) (still : Quiet op) (answer : op.Answer)
      (trace : Trace RouterPort) (silent : replies trace = []) :
      replies (trace ++ [⟨op, answer⟩]) = [] := by
    rw [replies_append, silent, replies_quiet still]
    rfl
  exact Concludes.bind (quiet.concludes kept silent)
    (fun trace result silent => goesOn result trace silent)
    fun trace error silent => silent

theorem acknowledges (payload : ReplyPayload) (silent : replies trace = []) :
    (buildAck refId payload >>= send ws :
      RouterProgram Unit).Concludes (Handled ws refId) trace :=
  fun _ _ => oneReply_answered silent (by simp)

theorem handlePing_handled :
    (handlePing ws envelope).Concludes (Handled ws envelope.refId) [] :=
  fun _ _ => oneReply_answered rfl (by simp)

/-- A handler checks its payload, does its work and acknowledges it. -/
theorem request_handled {Value : Type} {zod : Validation}
    {schema : Text.Schema Value} {data : Option Json}
    (work : Value → RouterProgram Result)
    (payload : Value → Result → ReplyPayload)
    (quiet : ∀ value, (work value).Issues Quiet) :
    (do
      let value ← validated zod schema data
      let result ← work value
      let ack ← buildAck envelope.refId (payload value result)
      send ws ack : RouterProgram Unit).Concludes
        (Handled ws envelope.refId) [] := by
  refine quiet_bind (validated_quiet _ _ _) rfl fun value _ silent => ?_
  refine quiet_bind (quiet value) silent fun result _ silent => ?_
  exact acknowledges _ silent

theorem handleChatSubscribe_handled :
    (handleChatSubscribe router ws envelope).Concludes
      (Handled ws envelope.refId) [] :=
  request_handled _ _ fun roomIds => subscribeMember_quiet ws roomIds []

theorem handleChatUnsubscribe_handled :
    (handleChatUnsubscribe router ws envelope).Concludes
      (Handled ws envelope.refId) [] :=
  request_handled _ _ fun roomIds => unsubscribeRooms_quiet ws roomIds

theorem handleChatSend_handled :
    (handleChatSend router ws envelope).Concludes
      (Handled ws envelope.refId) [] :=
  request_handled _ _ fun _ => chat_quiet _

theorem handleChatEdit_handled :
    (handleChatEdit router ws envelope).Concludes
      (Handled ws envelope.refId) [] :=
  request_handled _ _ fun _ => chat_quiet _

theorem handleChatDelete_handled :
    (handleChatDelete router ws envelope).Concludes
      (Handled ws envelope.refId) [] :=
  request_handled _ _ fun _ => chat_quiet _

theorem handleChatRead_handled :
    (handleChatRead router ws envelope).Concludes
      (Handled ws envelope.refId) [] :=
  request_handled _ _ fun _ => chat_quiet _

theorem handlePresenceHeartbeat_handled :
    (handlePresenceHeartbeat router ws envelope).Concludes
      (Handled ws envelope.refId) [] := by
  refine quiet_bind (presence_quiet _) rfl fun _ trace silent => ?_
  refine quiet_bind ⟨trivial, fun _ => trivial⟩ silent ?_
  exact fun ts _ silent => acknowledges _ silent

theorem unknownType_handled (type : String) :
    (buildError envelope.refId "UNKNOWN_TYPE"
        ("Unknown event type: " ++ type) >>= send ws :
      RouterProgram Unit).Concludes (Handled ws envelope.refId) [] :=
  fun _ _ => oneReply_answered rfl (by simp)

/-! ## Typing -/

/-- Either handled, or typed in a room of others and not answered at all. -/
def HandledOrIgnored (router : Router) (ws : Connection)
    (envelope : ClientEnvelope) (trace : Trace RouterPort)
    (outcome : Except Thrown Unit) : Prop :=
  Handled ws envelope.refId trace outcome ∧
      ¬ TypesElsewhere router ws envelope trace ∨
    outcome = .ok () ∧ replies trace = [] ∧
      TypesElsewhere router ws envelope trace

/-- A user who is not a member gets no answer to typing. -/
theorem handleChatTyping_handled (typing : envelope.type = "chat.typing") :
    (handleChatTyping router ws envelope).Concludes
      (HandledOrIgnored router ws envelope) [] := by
  unfold handleChatTyping validated validate
  cases parsed : ChatTypingPayloadSchema router.zod envelope.payload with
  | error issues =>
      refine .inl ⟨rfl, ?_⟩
      rintro ⟨-, roomId, accepted, -⟩
      rw [parsed] at accepted
      cases accepted
  | ok roomId =>
      have stays {trace : Trace RouterPort} (found : strangers trace = []) :
          ¬ TypesElsewhere router ws envelope trace := by
        rintro ⟨-, otherId, -, member⟩
        rw [found] at member
        cases member
      dsimp only
      rw [done_bind]
      unfold chat Chat.MessageUseCases.handleChatTyping
      refine Concludes.raise_perform_bind ?_ ?_
      · rintro answered error rfl
        exact .inl ⟨rfl, stays rfl⟩
      · rintro answered (_ | member) rfl
        · exact .inr
            ⟨rfl, rfl, typing, roomId, parsed, List.mem_singleton_self _⟩
        · refine Concludes.raise_perform_bind ?_ ?_
          · rintro published error rfl
            exact .inl ⟨rfl, stays rfl⟩
          · rintro published _ rfl ts _
            exact .inl ⟨⟨_, rfl, by simp, rfl⟩, stays rfl⟩

/-! ## Dispatch -/

theorem handledOrIgnored_of_handled {program : RouterProgram Unit}
    (other : envelope.type ≠ "chat.typing")
    (handled : program.Concludes (Handled ws envelope.refId) []) :
    program.Concludes (HandledOrIgnored router ws envelope) [] :=
  handled.imp fun _ _ holds => .inl ⟨holds, fun typing => other typing.1⟩

theorem handle_handled (router : Router) (ws : Connection)
    (envelope : ClientEnvelope) :
    (handle router ws envelope).Concludes
      (HandledOrIgnored router ws envelope) [] := by
  have other {type : String} (same : envelope.type = type)
      (differs : type ≠ "chat.typing") : envelope.type ≠ "chat.typing" :=
    same ▸ differs
  unfold handle
  split
  · next type =>
      exact handledOrIgnored_of_handled (other type (by decide))
        handlePing_handled
  · next type =>
      exact handledOrIgnored_of_handled (other type (by decide))
        handleChatSubscribe_handled
  · next type =>
      exact handledOrIgnored_of_handled (other type (by decide))
        handleChatUnsubscribe_handled
  · next type =>
      exact handledOrIgnored_of_handled (other type (by decide))
        handleChatSend_handled
  · next type =>
      exact handledOrIgnored_of_handled (other type (by decide))
        handleChatEdit_handled
  · next type =>
      exact handledOrIgnored_of_handled (other type (by decide))
        handleChatDelete_handled
  · next type =>
      exact handledOrIgnored_of_handled (other type (by decide))
        handleChatRead_handled
  · next type => exact handleChatTyping_handled type
  · next type =>
      exact handledOrIgnored_of_handled (other type (by decide))
        handlePresenceHeartbeat_handled
  · next notTyping _ =>
      exact handledOrIgnored_of_handled notTyping (unknownType_handled _)

/-- One reply, unless the user types in a room of others; then there is none. -/
def Answered (router : Router) (ws : Connection) (envelope : ClientEnvelope)
    (trace : Trace RouterPort) (_ : Except Empty Unit) : Prop :=
  OneReply ws envelope.refId (replies trace) ∧
      ¬ TypesElsewhere router ws envelope trace ∨
    replies trace = [] ∧ TypesElsewhere router ws envelope trace

theorem dispatch_answered {raw : String}
    (parsed : parseEnvelope router.parse raw = .ok envelope) :
    (dispatch router ws raw).Concludes (Answered router ws envelope) [] := by
  unfold dispatch
  rw [parsed]
  refine Concludes.attempt_bind (handle_handled router ws envelope) ?_
  rintro trace outcome (⟨handled, other⟩ | ⟨rfl, silent, ignored⟩)
  · cases outcome with
    | ok => exact .inl ⟨handled, other⟩
    | error err =>
        refine fun ts _ => .inl ⟨oneReply_answered handled (by simp), ?_⟩
        rintro ⟨typing, roomId, accepted, member⟩
        rw [strangers_answered] at member
        exact other ⟨typing, roomId, accepted, member⟩
  · exact .inr ⟨silent, ignored⟩

end Handled

/-! ## Runs -/

section Runs

variable {Name : Type} [DecidableEq Name]

/--
The envelope notifies a room of typing, and when the membership of the user is
looked up, the tables have none.
-/
def Ignored (uuid : PgUuid) (router : Router) (ws : Connection)
    (envelope : ClientEnvelope)
    (start : Config Name RouterPort RouterState Empty Unit) (name : Name)
    (schedule : List (Name × Moment)) : Prop :=
  envelope.type = "chat.typing" ∧ ∃ roomId,
    ChatTypingPayloadSchema router.zod envelope.payload = .ok roomId ∧
      ∃ before moment later, schedule = before ++ (name, moment) :: later ∧
        let config := start.play (routerAdapter uuid) before
        config.pending name = some (lookup ws roomId) ∧
          moment.failure = none ∧
            Gateway.getMember uuid (moment.elsewhere config.shared).chat roomId
              ws.userId = .ok none

theorem mem_strangers_iff {trace : Trace RouterPort} {roomId userId : String} :
    (roomId, userId) ∈ strangers trace ↔
      (⟨.chat (.roomRepo (.getMember roomId userId)), .ok none⟩ :
        Σ op : RouterOp, op.Answer) ∈ trace := by
  unfold strangers
  rw [List.mem_filterMap]
  constructor
  · rintro ⟨entry, member, found⟩
    split at found
    · cases found
      exact member
    · cases found
  · intro member
    exact ⟨_, member, rfl⟩

/-- When the lookup of a membership finds none. -/
theorem lookup_eq_none_iff {uuid : PgUuid} {moment : Moment}
    {state : RouterState} {ws : Connection} {roomId : String} :
    (∃ after, routerAdapter uuid (lookup ws roomId) moment state =
        .ok (.ok none, after)) ↔
      moment.failure = none ∧
        Gateway.getMember uuid (moment.elsewhere state).chat roomId ws.userId =
          .ok none := by
  unfold routerAdapter attempted Gateway.getMember chatAdapter
  dsimp only
  cases moment.failure with
  | some failure => simp
  | none =>
      cases PgRoomRepository.handle uuid (moment.elsewhere state).chat
          (.getMember roomId ws.userId) with
      | error error => simp [Except.map]
      | ok answered => simp [Except.map]

theorem typesElsewhere_iff {uuid : PgUuid} {router : Router} {ws : Connection}
    {envelope : ClientEnvelope}
    {start : Config Name RouterPort RouterState Empty Unit} {name : Name}
    {schedule : List (Name × Moment)} :
    TypesElsewhere router ws envelope
        (start.trace (routerAdapter uuid) name schedule) ↔
      Ignored uuid router ws envelope start name schedule := by
  refine and_congr_right fun _ => exists_congr fun roomId =>
    and_congr_right fun _ => ?_
  rw [mem_strangers_iff, Config.mem_trace_iff]
  constructor
  · rintro ⟨moment, before, later, after, split, waits, answers⟩
    exact ⟨before, moment, later, split, waits,
      lookup_eq_none_iff.mp ⟨after, answers⟩⟩
  · rintro ⟨before, moment, later, split, waits, found⟩
    obtain ⟨after, answers⟩ := lookup_eq_none_iff.mpr found
    exact ⟨moment, before, later, after, split, waits, answers⟩

/-- Whatever happens, a dispatch can go on to its end. -/
theorem exists_finished (uuid : PgUuid)
    (start : Config Name RouterPort RouterState Empty Unit) (name : Name)
    (schedule : List (Name × Moment)) (moment : Moment) :
    ∃ rest, ((start.play (routerAdapter uuid)
      (schedule ++ rest)).threads name).Finished := by
  obtain ⟨rest, played⟩ := Config.exists_alone (routerAdapter uuid) moment
    (start.play (routerAdapter uuid) schedule) name
  refine ⟨rest, ?_⟩
  have whole : start.play (routerAdapter uuid) (schedule ++ rest) =
      (start.play (routerAdapter uuid) schedule).play (routerAdapter uuid)
        rest := Transition.run_append _ _ _ _
  rw [whole, played]
  dsimp only
  rw [Function.update_self]
  generalize (Program.run _ _ _ _).1 = outcome
  cases outcome with
  | ok result => rfl
  | error error => rfl

/--
An envelope with the `id` that the client refers to gets one reply that refers
to it exactly if the envelope carries it as its `refId` as well, and it does not
notify a room of typing of which the user is not a member.
-/
theorem one_reply_iff :
    ∀ (Name : Type) [DecidableEq Name] (uuid : PgUuid) (router : Router)
      (ws : Connection) (raw : String) (envelope : ClientEnvelope) (r : String),
      parseEnvelope router.parse raw = .ok envelope → envelope.id = some r →
      ∀ (start : Config Name RouterPort RouterState Empty Unit) (name : Name),
        start.threads name = dispatch router ws raw →
        ∀ schedule : List (Name × Moment),
          (((start.play (routerAdapter uuid) schedule).threads
              name).Finished →
            (OneReply ws (some r)
                (replies (start.trace (routerAdapter uuid) name schedule)) ↔
              envelope.refId = some r ∧
                ¬ Ignored uuid router ws envelope start name schedule)) ∧
          ∃ rest, ((start.play (routerAdapter uuid)
            (schedule ++ rest)).threads name).Finished := by
  intro Name _ uuid router ws raw envelope r parsed _ start name thread schedule
  refine ⟨fun finished => ?_, exists_finished uuid start name schedule
    { now := 0, elsewhere := id, failure := none, rejection := none }⟩
  have concludes : (start.threads name).Concludes
      (Answered router ws envelope) [] := by
    rw [thread]
    exact dispatch_answered parsed
  obtain ⟨_, answered⟩ := Config.concluded concludes finished
  rw [← typesElsewhere_iff]
  rcases answered with ⟨⟨reply, sent, kind, refers⟩, other⟩ | ⟨silent, ignored⟩
  · constructor
    · rintro ⟨other', sentOnce, -, refersTo⟩
      rw [sent] at sentOnce
      cases sentOnce
      exact ⟨refers.symm.trans refersTo, other⟩
    · rintro ⟨refersTo, -⟩
      exact ⟨reply, sent, kind, refers.trans refersTo⟩
  · refine iff_of_false ?_ fun holds => holds.2 ignored
    rintro ⟨reply, sent, -, -⟩
    rw [silent] at sent
    cases sent

end Runs

section Sample

/-- An empty server. -/
def emptyServer : RouterState where
  chat := sampleTables []
  presence := .empty
  server := .start
  sent := []

def sampleConnection : Connection where
  connId := "1"
  userId := sampleOwner

/-- A ping, and whether the client repeats its reference as the `refId`. -/
def pingFields (repeats : Bool) : List (String × Json) :=
  [("type", .string "ping"), ("id", .string "client-ref")] ++
    if repeats then [("refId", .string "client-ref")] else []

def pingRouter (repeats : Bool) : Router where
  parse _ := some (.object (pingFields repeats))
  zod := sampleZod
  presenceTtlSec := 60
  draws := { id := sampleMessageId, now := 1 }

def pinged (repeats : Bool) : Config Unit RouterPort RouterState Empty Unit where
  shared := emptyServer
  threads _ := dispatch (pingRouter repeats) sampleConnection "{}"

def quietMoment : Moment where
  now := 2
  elsewhere := id
  failure := none
  rejection := none

/-- A look at the clock, and the reply. -/
def twoTurns : List (Unit × Moment) := [((), quietMoment), ((), quietMoment)]

theorem id_not_repeated :
    (∃ envelope, parseEnvelope (pingRouter false).parse "{}" = .ok envelope ∧
        envelope.id = some "client-ref") ∧
      (((pinged false).play (routerAdapter samplePgUuid) twoTurns).threads
        ()).Finished ∧
      ¬ OneReply sampleConnection (some "client-ref")
        (replies ((pinged false).trace (routerAdapter samplePgUuid) ()
          twoTurns)) := by
  refine ⟨⟨_, rfl, rfl⟩, rfl, ?_⟩
  rintro ⟨reply, sent, -, refers⟩
  have pong : replies ((pinged false).trace (routerAdapter samplePgUuid) ()
      twoTurns) = [(sampleConnection,
        { type := "pong", refId := none, payload := none, ts := 2 })] := rfl
  rw [pong] at sent
  cases sent
  cases refers

theorem one_reply_iff_repeated :
    OneReply sampleConnection (some "client-ref")
      (replies ((pinged true).trace (routerAdapter samplePgUuid) ()
        twoTurns)) := by
  refine ((one_reply_iff Unit samplePgUuid (pingRouter true) sampleConnection
    "{}" _ "client-ref" rfl rfl (pinged true) () rfl twoTurns).1 rfl).mpr
      ⟨rfl, ?_⟩
  rintro ⟨typing, -⟩
  exact absurd typing (by decide)

end Sample

end ChatBackend.Ws.Dispatch
