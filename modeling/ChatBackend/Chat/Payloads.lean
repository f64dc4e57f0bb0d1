import ChatBackend.Chat.GroupCreation
import ChatBackend.Text.Schemas

/-!
# Payloads of messages

The schemas of the bodies and payloads with which messages are sent, edited,
deleted and acknowledged and rooms are subscribed to, and of the envelopes that
carry the payloads over a connection.  What a JSON text denotes comes from the
runtime, and the texts of the issues from the validation library.
-/

namespace ChatBackend.Chat.Payloads

open Text
open Text.Schema
open Text.Fields
open ChatBackend.Chat.GroupCreation (Zod jsLength)
open ChatBackend.Chat.MessageUseCases

/-! ## Validation -/

/-- The library, with the text that it gives to a problem. -/
structure Validation extends Zod where
  message : Problem → String

def pathText (path : List String) : String :=
  let joined := ".".intercalate path
  if joined = "" then "body" else joined

def validate {Value : Type} (zod : Validation) (schema : Schema Value)
    (data : Option Json) : Except Failure Value :=
  match schema data with
  | .ok value => .ok value
  | .error issues =>
      .error (.validationError ("; ".intercalate (issues.map fun e =>
        pathText e.path ++ ": " ++ zod.message e.problem)))

/-- A refused object is told about itself or about its fields, by name. -/
theorem validate_object_error {Value Result : Type} {zod : Validation}
    {fields : Fields Value} {build : Value → Result} {data : Option Json}
    {failure : Failure}
    (refused : validate zod (.object fields build) data = .error failure) :
    ∃ issues : List Issue,
      failure = .validationError ("; ".intercalate (issues.map fun e =>
        pathText e.path ++ ": " ++ zod.message e.problem)) ∧
      ∀ issue ∈ issues, issue = ⟨[], .expected "object"⟩ ∨
        ∃ name ∈ fields.names, issue.path.head? = some name := by
  unfold validate at refused
  split at refused
  · cases refused
  · next issues found =>
      cases refused
      exact ⟨issues, rfl, object_located found⟩

/-! ## Strings -/

def atLeast (minimum : Nat) : Check where
  problem := .tooSmall "string" minimum
  passes text := minimum ≤ jsLength text

def atMost (maximum : Nat) : Check where
  problem := .tooBig "string" maximum
  passes text := jsLength text ≤ maximum

def uuid (zod : Validation) : Schema String :=
  string [⟨.format "uuid", zod.uuid⟩]

/-! ## Bodies and payloads -/

structure SendMessageInput where
  body : String
  attachmentKey : Option String
  clientMessageId : Option String
deriving DecidableEq, Repr

/-- What a send is executed on, whether it is posted or comes in an envelope. -/
def SendMessageInput.toInput (input : SendMessageInput)
    (roomId senderId : String) (refId : Option String) :
    SendMessage.Input where
  roomId
  senderId
  body := input.body
  attachmentKey := input.attachmentKey
  clientMessageId := input.clientMessageId
  refId

/-- The fields that a message is sent with. -/
def sendFields : Fields (String × Option String × Option String) :=
  (field "body" (.default "" (string [atMost 4096]))).and
    ((field "attachmentKey" (optional (string [atMost 512]))).and
      (field "clientMessageId" (optional (string [atMost 128]))))

def SendMessageSchema : Schema SendMessageInput :=
  .object sendFields fun (body, attachmentKey, clientMessageId) =>
    { body, attachmentKey, clientMessageId }

structure ChatSendPayload extends SendMessageInput where
  roomId : String
deriving DecidableEq, Repr

def ChatSendPayloadSchema (zod : Validation) : Schema ChatSendPayload :=
  .object ((field "roomId" (uuid zod)).and sendFields)
    fun (roomId, body, attachmentKey, clientMessageId) =>
      { roomId, body, attachmentKey, clientMessageId }

def ChatSubscribePayloadSchema (zod : Validation) : Schema (List String) :=
  .object (field "roomIds" (array (uuid zod) 1 50)) id

def ChatUnsubscribePayloadSchema (zod : Validation) : Schema (List String) :=
  .object (field "roomIds" (array (uuid zod) 1 50)) id

/-- The id of the message and its new body. -/
def ChatEditPayloadSchema (zod : Validation) : Schema (String × String) :=
  .object ((field "messageId" (uuid zod)).and
    (field "body" (string [atLeast 1, atMost 4096]))) id

def ChatDeletePayloadSchema (zod : Validation) : Schema String :=
  .object (field "messageId" (uuid zod)) id

/-- The ids of the room and of the message. -/
def ChatReadPayloadSchema (zod : Validation) : Schema (String × String) :=
  .object ((field "roomId" (uuid zod)).and (field "messageId" (uuid zod))) id

def ChatTypingPayloadSchema (zod : Validation) : Schema String :=
  .object (field "roomId" (uuid zod)) id

/-! ## Envelopes -/

structure ClientEnvelope where
  type : String
  id : Option String
  refId : Option String
  payload : Option Json
  ts : Option Rat

def ClientEnvelopeSchema : Schema ClientEnvelope :=
  .object ((field "type" (string [])).and
    ((field "id" (optional (string []))).and
      ((field "refId" (optional (string []))).and
        ((field "payload" unknown).and
          (field "ts" (optional number))))))
    fun (type, id, refId, payload, ts) => { type, id, refId, payload, ts }

/-- `parse` is what `JSON.parse` makes of a text, unless it throws. -/
def parseEnvelope (parse : String → Option Json) (raw : String) :
    Except Failure ClientEnvelope :=
  match parse raw with
  | none => .error (.validationError "Invalid JSON")
  | some data =>
      match ClientEnvelopeSchema (some data) with
      | .ok envelope => .ok envelope
      | .error _ => .error (.validationError "Invalid envelope")

/-- A validation library that takes every string for a UUID. -/
def sampleZod : Validation where
  uuid _ := true
  trim text := text
  message _ := "Invalid input"

end ChatBackend.Chat.Payloads
