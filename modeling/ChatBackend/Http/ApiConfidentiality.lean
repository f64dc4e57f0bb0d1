import ChatBackend.Http.ApiRefinement

/-!
# What the REST API tells of a room

HTTP requests that are served one after another do what the requests of use
cases do that are made of them.  So a response tells a user outside a room
nothing of the contents of the room's messages, whatever the layers in between
make of a request, of a reply and of an error.
-/

namespace ChatBackend.Http.Api

open Effects
open ChatBackend.Chat.Confidentiality
open ChatBackend.Chat.Directory
open ChatBackend.Chat.Payloads (sampleZod)
open ChatBackend.Chat.Redaction (Indistinguishable)
open ChatBackend.Chat.Requests
open ChatBackend.Chat.RoomActions (IsMember)
open ChatBackend.Chat.RoomUseCases
open ChatBackend.Chat.Schema
open ChatBackend.Chat.Store

section Service

variable (env : Env) (runtime : Runtime) (postgres : Postgres)

/-! ## One request after another -/

/-- A request is served at a time, before any other one moves. -/
def Answered (hit : Hit) (now : Time) (state : DirectoryState)
    (response : Response) (after : DirectoryState) : Prop :=
  ∃ schedule,
    let all := compose.run (toMiddlewares (hit.layers env))
      (hit.handler runtime postgres) hit.req hit.randomUUID (now, state)
      schedule
    all.outcome 0 = some (.ok response) ∧ all.state.world.2 = after

/-- How the use case ends that a request asks for. -/
def Hit.ends (hit : Hit) (now : Time) (state : DirectoryState) :
    Except Failure (Except Thrown DirectoryReply) × DirectoryState :=
  (Hit.asks (hit.intake env runtime)).run (directoryAdapter postgres) now state

/-- Requests are served one after another, in states of a kind. -/
inductive Serves (holds : DirectoryState → Prop) :
    DirectoryState → List (Hit × Time) → List Response → DirectoryState → Prop
  | nil {state : DirectoryState} (here : holds state) :
      Serves holds state [] [] state
  | cons {state between after : DirectoryState} {hit : Hit} {now : Time}
      {response : Response} {hits : List (Hit × Time)}
      {responses : List Response} (here : holds state)
      (answered : Answered env runtime postgres hit now state response between)
      (rest : Serves holds between hits responses after) :
      Serves holds state ((hit, now) :: hits) (response :: responses) after

variable {env runtime postgres} {hit : Hit} {now : Time}
  {state after : DirectoryState} {response : Response}

/-- The response and what becomes of the state are those of the use case. -/
theorem eq_of_outcome {schedule : List Nat} {outcome : Except Thrown Response}
    (resulted : (compose.run (toMiddlewares (hit.layers env))
      (hit.handler runtime postgres) hit.req hit.randomUUID (now, state)
      schedule).outcome 0 = some outcome) :
    outcome = .ok
        (hit.answer env runtime (hit.ends env runtime postgres now state).1) ∧
      (compose.run (toMiddlewares (hit.layers env))
        (hit.handler runtime postgres) hit.req hit.randomUUID (now, state)
        schedule).state.world.2 =
          (hit.ends env runtime postgres now state).2 := by
  rw [run_toMiddlewares] at resulted ⊢
  have remains := @Remains.first _ _ _ _ _
    (hit.handler runtime postgres hit.req) (fun position => position + 1)
    (once_layers env hit) (started hit.randomUUID ((now, state) : Backend))
  have ran := remains.run_of_outcome (once_layers env hit)
    (follows_launch env runtime postgres hit) resulted
  have hosts := @hosts_baseAuth env runtime postgres hit
    (started hit.randomUUID (now, state)) rfl
  obtain ⟨own, becomes, answers⟩ := hosts.run (now, state)
  have same : backend.set (now, state)
      (started hit.randomUUID ((now, state) : Backend)) =
    (Tasks.first (layerBody ((hit.layers env).map fun layer => layer hit.req)
      (hit.handler runtime postgres hit.req) 0) 1
      (started hit.randomUUID ((now, state) : Backend))).state := rfl
  rw [same, ran] at becomes answers
  exact ⟨answers, congrArg (fun exchange => exchange.world.2) becomes⟩

theorem Answered.eq
    (answered : Answered env runtime postgres hit now state response after) :
    response =
        hit.answer env runtime (hit.ends env runtime postgres now state).1 ∧
      after = (hit.ends env runtime postgres now state).2 := by
  obtain ⟨schedule, resulted, rfl⟩ := answered
  obtain ⟨same, becomes⟩ := eq_of_outcome resulted
  exact ⟨Except.ok.inj same, becomes⟩

/-- Every request is answered. -/
theorem exists_answered (env : Env) (runtime : Runtime) (postgres : Postgres)
    (hit : Hit) (now : Time) (state : DirectoryState) :
    Answered env runtime postgres hit now state
      (hit.answer env runtime (hit.ends env runtime postgres now state).1)
      (hit.ends env runtime postgres now state).2 := by
  obtain ⟨schedule, outcome, resulted⟩ := exists_outcome_compose
    (hit.handler runtime postgres) hit.req
    (once_baseAuth hit.req env hit.dependencies hit.later) hit.randomUUID
    ((now, state) : Backend) []
  obtain ⟨rfl, becomes⟩ := eq_of_outcome resulted
  exact ⟨schedule, resulted, becomes⟩

/-! ## Confidentiality -/

/-- No token of another user is accepted with the request. -/
def OfUser (user : String) (hit : Hit) : Prop :=
  ∀ other, hit.authenticate = .ok other → other = user

theorem OfUser.requestedBy {user : String} {request : DirectoryRequest}
    (own : OfUser user hit) (made : hit.intake env runtime = .ok request) :
    requestedBy request = user :=
  own _ (yields_intake made).1

/-- A request that is refused leaves the state. -/
theorem ends_of_refused {thrown : Thrown}
    (refused : hit.intake env runtime = .error thrown) :
    hit.ends env runtime postgres now state = (.ok (.error thrown), state) := by
  unfold Hit.ends
  rw [refused]
  rfl

/-- A request that is made of an HTTP request ends as it does by itself. -/
theorem ends_of_made {request : DirectoryRequest}
    (made : hit.intake env runtime = .ok request) :
    hit.ends env runtime postgres now state =
      ((respond postgres state (request, now)).1.map .ok,
        (respond postgres state (request, now)).2) := by
  unfold Hit.ends
  rw [made]
  exact Program.run_map _ _ _ _ _

/-- A run of requests in which the user of none enters the room. -/
theorem serves_related {user room : String} {left right leftAfter rightAfter :
      DirectoryState} {hits : List (Hit × Time)}
    {responses others : List Response}
    (canonical : postgres.read user = some user)
    (related : RelatedAll postgres user room left right)
    (served : Serves env runtime postgres
      (fun state => ¬ IsMember postgres.toPgUuid state.tables room user) left
      hits responses leftAfter)
    (otherServed : Serves env runtime postgres (fun _ => True) right hits
      others rightAfter) :
    RelatedAll postgres user room leftAfter rightAfter ∧
      ∀ (position : Nat) (hit : Hit) (now : Time),
        hits[position]? = some (hit, now) →
          OfUser user hit → responses[position]? = others[position]? := by
  induction served generalizing right others with
  | nil here =>
      cases otherServed
      exact ⟨related, fun position hit now there _ => rfl⟩
  | @cons left between after hit now response hits responses outside answered
      rest induction =>
      cases otherServed with
      | @cons _ otherBetween _ _ _ otherResponse _ others _ otherAnswered
          otherRest =>
          obtain ⟨rfl, rfl⟩ := answered.eq
          obtain ⟨rfl, rfl⟩ := otherAnswered.eq
          have alike : RelatedAll postgres user room
              (hit.ends env runtime postgres now left).2
              (hit.ends env runtime postgres now right).2 ∧
              (OfUser user hit → (hit.ends env runtime postgres now left).1 =
                (hit.ends env runtime postgres now right).1) := by
            cases made : hit.intake env runtime with
            | error thrown =>
                rw [ends_of_refused made, ends_of_refused made]
                exact ⟨related, fun _ => rfl⟩
            | ok request =>
                rw [ends_of_made made, ends_of_made made]
                have alike := respond_alike canonical related (request, now)
                  outside
                refine ⟨alike.1, fun own => ?_⟩
                have same := (Program.Alike.mono alike fun _ _ equal =>
                  equal (own.requestedBy made)).outcome_eq
                dsimp only
                rw [same]
          obtain ⟨related, same⟩ := induction alike.1 otherRest
          refine ⟨related, fun position found now there own => ?_⟩
          cases position with
          | zero =>
              cases there
              rw [List.getElem?_cons_zero, List.getElem?_cons_zero,
                alike.2 own]
          | succ position => exact same position found now there own

/-- The requests of a user outside leave the user there. -/
theorem serves_outside {user room : String} {left : DirectoryState}
    {hits : List (Hit × Time)} {responses : List Response}
    (sound : Sound postgres.toPgUuid left.tables)
    (outside : Outside postgres.toPgUuid user room left.tables)
    (own : ∀ entry ∈ hits, OfUser user entry.1)
    (served : Serves env runtime postgres (fun _ => True) left hits responses
      after) : ¬ IsMember postgres.toPgUuid after.tables room user := by
  induction served with
  | nil here => exact outside.outside
  | @cons left between after hit now response hits responses _ answered rest
      induction =>
      rw [List.forall_mem_cons] at own
      obtain ⟨-, rfl⟩ := answered.eq
      cases made : hit.intake env runtime with
      | error thrown =>
          rw [ends_of_refused made] at induction
          exact induction sound outside own.2
      | ok request =>
          rw [ends_of_made made] at induction
          exact induction (sound_progress sound (request, now))
            (outside_progress sound outside (request, now)
              (own.1.requestedBy made)) own.2

/--
The confidentiality of a room at the REST API.  The tables differ in the
contents of messages of the room only that a user outside has not sent.  In two
runs of the same HTTP requests, in one of which the user never becomes a member
of the room, every request with which no token of another user is accepted gets
the same response, to the last header, and the states come to differ in nothing
else.  Requests of that kind alone do not make the user a member.
-/
theorem rest_confidential {user room : String} {left right : DirectoryState}
    (canonical : postgres.read user = some user)
    (soundLeft : Sound postgres.toPgUuid left.tables)
    (soundRight : Sound postgres.toPgUuid right.tables)
    (same : Indistinguishable user room left.tables right.tables)
    (presence : left.presence = right.presence)
    (outside : ¬ IsMember postgres.toPgUuid left.tables room user)
    (hits : List (Hit × Time)) :
    (∀ responses others leftAfter rightAfter,
      Serves env runtime postgres
          (fun state => ¬ IsMember postgres.toPgUuid state.tables room user)
          left hits responses leftAfter →
        Serves env runtime postgres (fun _ => True) right hits others
            rightAfter →
          Indistinguishable user room leftAfter.tables rightAfter.tables ∧
            leftAfter.presence = rightAfter.presence ∧
            ∀ (position : Nat) (hit : Hit) (now : Time),
              hits[position]? = some (hit, now) → OfUser user hit →
                responses[position]? = others[position]?) ∧
      ((∃ row ∈ left.tables.rooms, row.id = room) →
        (∀ entry ∈ hits, OfUser user entry.1) →
          ∀ responses leftAfter,
            Serves env runtime postgres (fun _ => True) left hits responses
                leftAfter →
              ¬ IsMember postgres.toPgUuid leftAfter.tables room user) := by
  constructor
  · intro responses others leftAfter rightAfter served otherServed
    have related : RelatedAll postgres user room left right :=
      ⟨{ same with
        left := soundLeft.toConforms
        right := soundRight.toConforms }, presence⟩
    obtain ⟨there, alike⟩ :=
      serves_related canonical related served otherServed
    exact ⟨there.tables.toIndistinguishable, there.presence, alike⟩
  · intro found own responses leftAfter served
    exact serves_outside soundLeft ⟨found, outside⟩ own served

end Service

/-! ## A message that its sender edits -/

/-- A runtime that writes a message as its body. -/
def sampleRuntime : Runtime :=
  { sampleZod with
    url := some
    toNumber := fun _ => none
    searchParam := fun _ _ => none
    stringify := fun name reply =>
      match reply with
      | .chat (.message dto) => dto.body
      | .chat (.messages dtos) =>
          ", ".intercalate (dtos.map fun dto => dto.body)
      | _ => name }

/-- The users are their own tokens, and the limiter allows everything. -/
def openDependencies : Dependencies where
  verifyAccess token := .ok (some { sub := token, jti := "1" })
  consume _ max windowSec :=
    .ok { allowed := true, remaining := max - 1, resetAt := windowSec }

def localUrl (segments : List String)
    (plain : ∀ segment ∈ segments,
      '/' ∉ segment.toList ∧ '?' ∉ segment.toList)
    (normal : ∀ segment ∈ segments, AddressedIds.NormalSegment segment) :
    AddressedIds.Url where
  scheme := "https"
  authority := "chat.local"
  segments
  query := none
  schemeOk := by decide
  authorityOk := by decide
  segmentsOk := plain
  normalHost := by decide
  normalSegments := normal

/-- The owner of the group edits the message. -/
def patchByOwner : Hit where
  route := ⟨"PATCH", "/api/v1/messages/:id"⟩
  action := MessagesController.edit
  registered := by simp [endpoints]
  req :=
    { method := "PATCH"
      headers := [("authorization", "Bearer " ++ sampleOwner)] }
  incoming :=
    { url := localUrl ["api", "v1", "messages", sampleMessageId] (by decide)
        (by decide)
      json := .ok (.object [("body", .string "final")])
      id := sampleNextMessageId
      now := 3 }
  method := rfl
  routed := by decide
  dependencies := openDependencies
  later := 3
  randomUUID := "5ca1ab1e"

/-- A user outside tries to read the group. -/
def getByMember : Hit where
  route := ⟨"GET", "/api/v1/rooms/:id/messages"⟩
  action := MessagesController.listByRoom
  registered := by simp [endpoints]
  req :=
    { method := "GET"
      headers := [("authorization", "Bearer " ++ sampleMember)] }
  incoming :=
    { url := localUrl ["api", "v1", "rooms", sampleRoomId, "messages"]
        (by decide) (by decide)
      json := .error "Unexpected end of JSON input"
      id := sampleNextMessageId
      now := 4 }
  method := rfl
  routed := by decide
  dependencies := openDependencies
  later := 4
  randomUUID := "5ca1ab1e"

/-- What the edit leaves, for the message with a body. -/
def edited (body : String) : DirectoryState :=
  (patchByOwner.ends sampleEnv sampleRuntime samplePostgres 3
    (sampleSent body)).2

theorem rest_confidential_ownerEdits :
    (getByMember.answer sampleEnv sampleRuntime (getByMember.ends sampleEnv
        sampleRuntime samplePostgres 4 (edited "draft")).1) =
      (getByMember.answer sampleEnv sampleRuntime (getByMember.ends sampleEnv
        sampleRuntime samplePostgres 4 (edited "final")).1) := by
  have confidential :=
    @rest_confidential sampleEnv sampleRuntime samplePostgres sampleMember
      sampleRoomId (sampleSent "draft") (sampleSent "final")
      (by decide)
      ((sound_sampleTables samplePgUuid [sampleOwner, sampleMember]).run _)
      ((sound_sampleTables samplePgUuid [sampleOwner, sampleMember]).run _)
      ⟨by decide, by decide, by decide, by decide, by decide⟩ rfl
      (by decide) [(patchByOwner, 3), (getByMember, 4)]
  have outside : Serves sampleEnv sampleRuntime samplePostgres
      (fun state => ¬ IsMember samplePostgres.toPgUuid state.tables
        sampleRoomId sampleMember) (sampleSent "draft") _ _ _ :=
    .cons (by decide) (exists_answered _ _ _ patchByOwner 3 _)
      (.cons (by decide +kernel) (exists_answered _ _ _ getByMember 4 _)
        (.nil (by decide +kernel)))
  have other : Serves sampleEnv sampleRuntime samplePostgres (fun _ => True)
      (sampleSent "final") _ _ _ :=
    .cons trivial (exists_answered _ _ _ patchByOwner 3 _)
      (.cons trivial (exists_answered _ _ _ getByMember 4 _) (.nil trivial))
  have own : OfUser sampleMember getByMember := by
    have authenticated : getByMember.authenticate = .ok sampleMember := by
      decide +kernel
    intro user accepted
    rw [authenticated] at accepted
    exact (Except.ok.inj accepted).symm
  have alike :=
    (confidential.1 _ _ _ _ outside other).2.2 1 getByMember 4 rfl own
  exact Option.some.inj alike

end ChatBackend.Http.Api
