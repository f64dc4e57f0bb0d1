import ChatBackend.Ws.TicketStore
import Mathlib.Data.Fintype.Option

/-!
# Tickets are used once

Any number of calls issue tickets and any number of requests present them.  A
request reads the ticket with one command and deletes it with the next; a
second request that reads in between is let through as well.

`Overlaps` says that a turn is such a second read.  A ticket lets at most one
request through exactly in the runs without one.  Whether or not there is one,
a ticket is read in its time, and for the user it was issued to.
-/

namespace ChatBackend.Ws.SingleUseTickets

open Collections
open Effects
open Transition
open ChatBackend.Auth.TokenStore
open ChatBackend.Ws.Registry
open ChatBackend.Ws.TicketStore
open ChatBackend.Ws.TicketStore.RedisWsTicketStore

variable {Name : Type*}

/-! ## Specification -/

/-- The call presents the ticket, and the server would upgrade it. -/
def Presents (ticket : String) : TicketCall → Prop
  | .issue _ _ _ => False
  | .upgrade request =>
      request.ticket = some ticket ∧ ticket ≠ "" ∧ request.upgrades = true

/-- Every call has drawn a ticket of its own. -/
def FreshTickets (calls : Name → TicketCall) : Prop :=
  ∀ name other ticket userId otherUserId ttlSec otherTtlSec,
    calls name = .issue ticket userId ttlSec →
      calls other = .issue ticket otherUserId otherTtlSec → name = other

section Specification

variable (calls : Name → TicketCall) (config : Calls Name)

/-- The call has been let through to a connection. -/
def LetThrough (name : Name) (data : Connection) : Prop :=
  (config.threads name).result? = some (.answered (.upgraded data))

/-- A ticket has let at most one request through. -/
def SingleUse : Prop :=
  ∀ ticket name other data otherData,
    Presents ticket (calls name) → Presents ticket (calls other) →
      LetThrough config name data → LetThrough config other otherData →
        name = other

/-- The turn reads a ticket. -/
def Reads (label : Name × Time) : Prop :=
  ∃ ticket, config.pending label.1 = some (.get (key ticket))

/--
The turn reads a stored ticket while another request that has read it is about
to delete it.
-/
def Overlaps (label : Name × Time) : Prop :=
  ∃ ticket, Presents ticket (calls label.1) ∧
    config.pending label.1 = some (.get (key ticket)) ∧
      (∃ userId ∈ config.shared.get label.2 (key ticket), userId ≠ "") ∧
        ∃ other, Presents ticket (calls other) ∧
          config.pending other = some (.del (key ticket))

instance (ticket : String) : DecidablePred (Presents ticket)
  | .issue _ _ _ => isFalse id
  | .upgrade request =>
      inferInstanceAs (Decidable (request.ticket = some ticket ∧ ticket ≠ "" ∧
        request.upgrades = true))

/-- The ticket of a request. -/
def ticketOf : TicketCall → Option String
  | .issue _ _ _ => none
  | .upgrade request => request.ticket

instance [Fintype Name] (label : Name × Time) :
    Decidable (Overlaps calls config label) :=
  decidable_of_iff (∃ ticket ∈ ticketOf (calls label.1),
      Presents ticket (calls label.1) ∧
      config.pending label.1 = some (.get (key ticket)) ∧
        (∃ userId ∈ config.shared.get label.2 (key ticket), userId ≠ "") ∧
          ∃ other, Presents ticket (calls other) ∧
            config.pending other = some (.del (key ticket))) <| by
    refine exists_congr fun ticket => and_iff_right_of_imp ?_
    rintro ⟨presents, -⟩
    generalize calls label.1 = call at presents ⊢
    cases call with
    | issue other userId ttlSec => exact presents.elim
    | upgrade request => exact presents.1

variable [DecidableEq Name] (verifyAccess : VerifyAccess)

/--
A ticket has let at most one request through, once those that have read one
have ended.
-/
def SingleUseAtRest : Prop :=
  ∀ rest, Along (turn verifyAccess) (fun config label => ¬ Reads config label)
      config rest →
    SingleUse calls (config.play (ticketAdapter verifyAccess) rest)

/--
In the schedule the request has read the ticket in its time, and the ticket had
been issued to the user.
-/
def ReadInTime (schedule : List (Name × Time)) (name : Name)
    (ticket userId : String) : Prop :=
  ∃ before now after issuer ttlSec issuedAt,
    schedule = before ++ (name, now) :: after ∧
      ((begin calls).play (ticketAdapter verifyAccess) before).pending name =
        some (.get (key ticket)) ∧
      calls issuer = .issue ticket userId ttlSec ∧
      (begin calls).Performs (ticketAdapter verifyAccess) before issuer
        (.set (key ticket) userId ttlSec) issuedAt () ∧
      now < issuedAt + ttlSec * 1000

end Specification

/-! ## Control points -/

/-- Where a call stands. -/
inductive ControlPoint where
  | setting (ticket userId : String) (ttlSec : Int)
  | reading (request : UpgradeRequest) (ticket : String)
  | deleting (request : UpgradeRequest) (ticket userId : String)
  | verifying (request : UpgradeRequest) (token : String)
  | returned (outcome : Outcome)
  | failed (error : RedisError)

namespace ControlPoint

/-- What a call has still to do at a control point. -/
def program : ControlPoint → TicketProgram Outcome
  | .setting ticket userId ttlSec =>
      .issued <$> RedisWsTicketStore.issue ticket userId ttlSec
  | .reading request ticket =>
      .answered <$> WsGateway.upgradeTicket request ticket
  | .deleting request ticket userId =>
      .answered <$> do
        TicketOp.await (.del (key ticket))
        return WsGateway.connect request userId
  | .verifying request token =>
      .answered <$> do
        let claims ← TicketOp.await (.verifyAccess token)
        match claims with
        | none => return .response "Invalid or expired token" 401
        | some claims => return WsGateway.connect request claims.sub
  | .returned outcome => .done outcome
  | .failed error => .fail error

/-- Where a request stands once its ticket has been looked up. -/
def lookedUp (request : UpgradeRequest) (ticket : String) :
    Option String → ControlPoint
  | none =>
      .returned (.answered (.response "Invalid or expired ticket" 401))
  | some userId =>
      if userId = "" then
        .returned (.answered (.response "Invalid or expired ticket" 401))
      else .deleting request ticket userId

/-- The answer to a request whose access token has been verified. -/
def verified (request : UpgradeRequest) :
    Option AccessTokenClaims → UpgradeAnswer
  | none => .response "Invalid or expired token" 401
  | some claims => WsGateway.connect request claims.sub

theorem program_reading (request : UpgradeRequest) (ticket : String) :
    (ControlPoint.reading request ticket).program =
      .call (.get (key ticket)) fun answer =>
        (lookedUp request ticket answer).program := by
  refine congrArg (Program.call _) (funext fun answer => ?_)
  cases answer with
  | none => rfl
  | some userId =>
      unfold lookedUp
      by_cases blank : userId = ""
      · subst blank
        rfl
      · simp only [Program.bind, blank, if_false]
        refine congrArg (Program.call _) (funext fun _ => ?_)
        simp only [Program.pure_eq_done, Program.bind, blank, if_false]

theorem program_verifying (request : UpgradeRequest) (token : String) :
    (ControlPoint.verifying request token).program =
      .call (.verifyAccess token) fun claims =>
        (ControlPoint.returned
          (.answered (verified request claims))).program := by
  refine congrArg (Program.call _) (funext fun claims => ?_)
  cases claims with
  | none => rfl
  | some claims => rfl

/-- Where a request without a ticket starts. -/
def startToken (request : UpgradeRequest) : ControlPoint :=
  match request.token with
  | none =>
      .returned (.answered (.response "Missing token or ticket" 401))
  | some token =>
      if token = "" then
        .returned (.answered (.response "Missing token or ticket" 401))
      else .verifying request token

/-- Where a call starts. -/
def start : TicketCall → ControlPoint
  | .issue ticket userId ttlSec => .setting ticket userId ttlSec
  | .upgrade request =>
      match request.ticket with
      | none => startToken request
      | some ticket =>
          if ticket = "" then startToken request else .reading request ticket

theorem program_startToken (request : UpgradeRequest) :
    (startToken request).program =
      .answered <$> WsGateway.upgradeToken request := by
  unfold startToken WsGateway.upgradeToken
  cases request.token with
  | none => rfl
  | some token =>
      dsimp only
      split_ifs
      · rfl
      · rfl

theorem program_start (call : TicketCall) :
    (start call).program = call.program := by
  cases call with
  | issue ticket userId ttlSec => rfl
  | upgrade request =>
      unfold start TicketCall.program WsGateway.upgrade
      dsimp only
      cases request.ticket with
      | none => exact program_startToken request
      | some ticket =>
          dsimp only
          split_ifs
          · exact program_startToken request
          · rfl

end ControlPoint

/-! ## Moves -/

/-- How one turn takes a call from a control point to the next. -/
inductive Moves (now : Time) (redis : RedisStrings) :
    ControlPoint → ControlPoint → RedisStrings → Prop where
  | refuses (ticket userId : String) (ttlSec : Int) :
      Moves now redis (.setting ticket userId ttlSec)
        (.failed .invalidExpireTime) redis
  | sets (ticket userId : String) (ttlSec : Int) (valid : ¬ ttlSec ≤ 0) :
      Moves now redis (.setting ticket userId ttlSec)
        (.returned (.issued ticket))
        (redis.put (key ticket)
          { value := userId, expiresAt := some (now + ttlSec * 1000) })
  | misses (request : UpgradeRequest) (ticket : String) :
      Moves now redis (.reading request ticket)
        (.returned (.answered (.response "Invalid or expired ticket" 401)))
        redis
  | finds (request : UpgradeRequest) (ticket userId : String)
      (stored : redis.get now (key ticket) = some userId)
      (named : userId ≠ "") :
      Moves now redis (.reading request ticket)
        (.deleting request ticket userId) redis
  | deletes (request : UpgradeRequest) (ticket userId : String) :
      Moves now redis (.deleting request ticket userId)
        (.returned (.answered (WsGateway.connect request userId)))
        (redis.delete (key ticket))
  | verifies (request : UpgradeRequest) (token : String)
      (answer : UpgradeAnswer) :
      Moves now redis (.verifying request token)
        (.returned (.answered answer)) redis
  | returned (outcome : Outcome) :
      Moves now redis (.returned outcome) (.returned outcome) redis
  | failed (error : RedisError) :
      Moves now redis (.failed error) (.failed error) redis

open ControlPoint in
theorem resume_moves (verifyAccess : VerifyAccess) (now : Time)
    (redis : RedisStrings) (point : ControlPoint) :
    ∃ next after,
      point.program.resume (ticketAdapter verifyAccess) now redis =
          (next.program, after) ∧
        Moves now redis point next after := by
  cases point with
  | setting ticket userId ttlSec =>
      by_cases invalid : ttlSec ≤ 0
      · refine ⟨_, _, ?_, .refuses ticket userId ttlSec⟩
        exact Program.resume_call_error _ (if_pos invalid)
      · refine ⟨_, _, ?_, .sets ticket userId ttlSec invalid⟩
        exact Program.resume_call_ok _ (if_neg invalid)
  | reading request ticket =>
      have answered : ticketAdapter verifyAccess (.get (key ticket)) now
          redis = .ok (redis.get now (key ticket), redis) := rfl
      refine ⟨lookedUp request ticket (redis.get now (key ticket)), redis, ?_,
        ?_⟩
      · rw [program_reading]
        exact Program.resume_call_ok _ answered
      · cases found : redis.get now (key ticket) with
        | none => exact .misses request ticket
        | some userId =>
            unfold lookedUp
            dsimp only
            split_ifs with blank
            · exact .misses request ticket
            · exact .finds request ticket userId found blank
  | deleting request ticket userId =>
      exact ⟨_, _, rfl, .deletes request ticket userId⟩
  | verifying request token =>
      have answered : ticketAdapter verifyAccess (.verifyAccess token) now
          redis = .ok (verifyAccess now token, redis) := rfl
      refine ⟨_, redis, ?_, .verifies request token
        (verified request (verifyAccess now token))⟩
      rw [program_verifying]
      exact Program.resume_call_ok _ answered
  | returned outcome => exact ⟨_, _, rfl, .returned outcome⟩
  | failed error => exact ⟨_, _, rfl, .failed error⟩

/-! ## Where the calls stand -/

/-- The control points that a call may stand at. -/
inductive Stands : TicketCall → ControlPoint → Prop where
  | setting (ticket userId : String) (ttlSec : Int) :
      Stands (.issue ticket userId ttlSec) (.setting ticket userId ttlSec)
  | issued (ticket userId : String) (ttlSec : Int) :
      Stands (.issue ticket userId ttlSec) (.returned (.issued ticket))
  | refused (ticket userId : String) (ttlSec : Int) (error : RedisError) :
      Stands (.issue ticket userId ttlSec) (.failed error)
  | reading (request : UpgradeRequest) (ticket : String)
      (presented : request.ticket = some ticket) :
      Stands (.upgrade request) (.reading request ticket)
  | deleting (request : UpgradeRequest) (ticket userId : String)
      (presented : request.ticket = some ticket) :
      Stands (.upgrade request) (.deleting request ticket userId)
  | verifying (request : UpgradeRequest) (token : String)
      (absent : ∀ ticket, ¬ Presents ticket (.upgrade request)) :
      Stands (.upgrade request) (.verifying request token)
  | answered (request : UpgradeRequest) (answer : UpgradeAnswer) :
      Stands (.upgrade request) (.returned (.answered answer))

theorem stands_start (call : TicketCall) : Stands call (.start call) := by
  cases call with
  | issue ticket userId ttlSec => exact .setting ticket userId ttlSec
  | upgrade request =>
      have withToken (absent : ∀ ticket, ¬ Presents ticket (.upgrade request)) :
          Stands (.upgrade request) (ControlPoint.startToken request) := by
        unfold ControlPoint.startToken
        cases request.token with
        | none => exact .answered request _
        | some token =>
            dsimp only
            split_ifs
            · exact .answered request _
            · exact .verifying request token absent
      unfold ControlPoint.start
      dsimp only
      cases presented : request.ticket with
      | none =>
          apply withToken
          rintro ticket ⟨same, -⟩
          cases presented.symm.trans same
      | some ticket =>
          dsimp only
          split_ifs with blank
          · apply withToken
            rintro other ⟨same, named, -⟩
            cases presented.symm.trans same
            exact named blank
          · exact .reading request ticket presented

theorem Stands.moves {call : TicketCall} {now : Time}
    {redis after : RedisStrings} {point next : ControlPoint}
    (stands : Stands call point)
    (moves : Moves now redis point next after) : Stands call next := by
  cases moves with
  | refuses ticket userId ttlSec =>
      cases stands
      exact .refused ticket userId ttlSec _
  | sets ticket userId ttlSec valid =>
      cases stands
      exact .issued ticket userId ttlSec
  | misses request ticket =>
      cases stands
      exact .answered request _
  | finds request ticket userId stored named =>
      cases stands with
      | reading _ _ presented => exact .deleting request ticket userId presented
  | deletes request ticket userId =>
      cases stands
      exact .answered request _
  | verifies request token answer =>
      cases stands
      exact .answered request answer
  | returned outcome => exact stands
  | failed error => exact stands

theorem Stands.of_setting {call : TicketCall} {ticket userId : String}
    {ttlSec : Int} (stands : Stands call (.setting ticket userId ttlSec)) :
    call = .issue ticket userId ttlSec := by
  cases stands
  rfl

theorem Stands.of_reading {call : TicketCall} {request : UpgradeRequest}
    {ticket : String} (stands : Stands call (.reading request ticket)) :
    call = .upgrade request ∧ request.ticket = some ticket := by
  cases stands with
  | reading _ _ presented => exact ⟨rfl, presented⟩

theorem Stands.of_deleting {call : TicketCall} {request : UpgradeRequest}
    {ticket userId : String}
    (stands : Stands call (.deleting request ticket userId)) :
    call = .upgrade request ∧ request.ticket = some ticket := by
  cases stands with
  | deleting _ _ _ presented => exact ⟨rfl, presented⟩

/-- A request that verifies an access token presents no ticket. -/
theorem Stands.of_verifying {call : TicketCall} {request : UpgradeRequest}
    {token : String} (stands : Stands call (.verifying request token))
    (ticket : String) : ¬ Presents ticket call := by
  cases stands with
  | verifying _ _ absent => exact absent ticket

theorem stands_update [DecidableEq Name] {calls : Name → TicketCall}
    {points : Name → ControlPoint} {name : Name} {next : ControlPoint}
    (stands : ∀ other, Stands (calls other) (points other))
    (here : Stands (calls name) next) (other : Name) :
    Stands (calls other) (Function.update points name next other) := by
  revert other
  rw [Function.forall_update_iff points
    fun other point => Stands (calls other) point]
  exact ⟨here, fun other _ => stands other⟩

/-- With the ticket the call has been let through. -/
def Passed (ticket : String) (call : TicketCall) : ControlPoint → Prop
  | .returned (.answered (.upgraded _)) => Presents ticket call
  | _ => False

/-- With the ticket the call has been let through, or it is bound to be. -/
def Passes (ticket : String) (call : TicketCall) : ControlPoint → Prop
  | .deleting _ _ _ => Presents ticket call
  | point => Passed ticket call point

theorem Passed.passes {ticket : String} {call : TicketCall}
    {point : ControlPoint} (passed : Passed ticket call point) :
    Passes ticket call point := by
  cases point with
  | deleting request other userId => exact passed.elim
  | _ => exact passed

/-- A call that passes is about to delete its ticket, or is let through. -/
theorem Passes.deleting_or_passed {ticket : String} {call : TicketCall}
    {point : ControlPoint} (passes : Passes ticket call point)
    (stands : Stands call point) :
    Presents ticket call ∧
      ((∃ request userId, point = .deleting request ticket userId) ∨
        Passed ticket call point) := by
  cases point with
  | deleting request other userId =>
      have presents : Presents ticket call := passes
      refine ⟨presents, .inl ⟨request, userId, ?_⟩⟩
      cases stands with
      | deleting _ _ _ presented =>
          rw [Option.some.inj (presented.symm.trans presents.1)]
  | returned outcome =>
      cases outcome with
      | issued other => exact passes.elim
      | answered answer =>
          cases answer with
          | upgraded data => exact ⟨passes, .inr passes⟩
          | response message status => exact passes.elim
  | setting other userId ttlSec => exact passes.elim
  | reading request other => exact passes.elim
  | verifying request token => exact passes.elim
  | failed error => exact passes.elim

theorem not_passes_start (ticket : String) (call : TicketCall) :
    ¬ Passes ticket call (.start call) := by
  have withToken (request : UpgradeRequest) :
      ¬ Passes ticket call (ControlPoint.startToken request) := by
    unfold ControlPoint.startToken
    cases request.token with
    | none => exact id
    | some token =>
        dsimp only
        split_ifs
        · exact id
        · exact id
  cases call with
  | issue other userId ttlSec => exact id
  | upgrade request =>
      unfold ControlPoint.start
      dsimp only
      cases request.ticket with
      | none => exact withToken request
      | some other =>
          dsimp only
          split_ifs
          · exact withToken request
          · exact id

/-- The call that has drawn the ticket has stored it. -/
def Issued (calls : Name → TicketCall) (points : Name → ControlPoint)
    (ticket : String) : Prop :=
  ∃ name userId ttlSec, calls name = .issue ticket userId ttlSec ∧
    points name = .returned (.issued ticket)

/-- Only issued tickets are stored and passed with, each by one request. -/
structure Guarded (calls : Name → TicketCall) (redis : RedisStrings)
    (points : Name → ControlPoint) : Prop where
  stands : ∀ name, Stands (calls name) (points name)
  stored : ∀ ticket, redis.entries (key ticket) ≠ none →
    Issued calls points ticket
  issued : ∀ ticket name, Passes ticket (calls name) (points name) →
    Issued calls points ticket
  gone : ∀ ticket name, Passed ticket (calls name) (points name) →
    redis.entries (key ticket) = none
  once : ∀ ticket name other, Passes ticket (calls name) (points name) →
    Passes ticket (calls other) (points other) → name = other

section Guarding

variable {calls : Name → TicketCall} {redis after : RedisStrings}
  {points : Name → ControlPoint} {now : Time} {name : Name}
  {point next : ControlPoint}

variable [DecidableEq Name]

/-- A turn of a call that has not issued its ticket. -/
theorem Issued.update {ticket : String} (issued : Issued calls points ticket)
    (stand : points name = point)
    (moving : ∀ ticket, point ≠ .returned (.issued ticket)) :
    Issued calls (Function.update points name next) ticket := by
  rcases issued with ⟨issuer, userId, ttlSec, drawn, ended⟩
  refine ⟨issuer, userId, ttlSec, drawn, ?_⟩
  rw [Function.update_of_ne]
  · exact ended
  · rintro rfl
    exact moving ticket (stand.symm.trans ended)

/-- The invariant after a turn, from what the turn changes. -/
theorem Guarded.update (guarded : Guarded calls redis points)
    (stand : points name = point)
    (moving : ∀ ticket, point ≠ .returned (.issued ticket))
    (stands : Stands (calls name) next)
    (stored : ∀ ticket, after.entries (key ticket) ≠ none →
      redis.entries (key ticket) ≠ none ∨
        Issued calls (Function.update points name next) ticket)
    (passes : ∀ ticket, Passes ticket (calls name) next →
      Issued calls points ticket ∧
        ∀ other, Passes ticket (calls other) (points other) → other = name)
    (gone : ∀ ticket, Passed ticket (calls name) next →
      after.entries (key ticket) = none)
    (othersGone : ∀ ticket other,
      Passed ticket (calls other) (points other) →
        after.entries (key ticket) = none) :
    Guarded calls after (Function.update points name next) := by
  refine
    { stands := stands_update guarded.stands stands
      stored := ?_
      issued := ?_
      gone := ?_
      once := ?_ }
  · intro ticket present
    rcases stored ticket present with before | issued
    · exact (guarded.stored ticket before).update stand moving
    · exact issued
  · intro ticket
    refine (Function.forall_update_iff points fun other point =>
      Passes ticket (calls other) point →
        Issued calls (Function.update points name next) ticket).mpr ⟨?_, ?_⟩
    · exact fun passed => (passes ticket passed).1.update stand moving
    · intro other _ passed
      exact (guarded.issued ticket other passed).update stand moving
  · intro ticket
    exact (Function.forall_update_iff points fun other point =>
      Passed ticket (calls other) point →
        after.entries (key ticket) = none).mpr
      ⟨gone ticket, fun other _ => othersGone ticket other⟩
  · intro ticket
    have unique := @Config.atMostOne_update _ _ _ points
      (fun passer point => Passes ticket (calls passer) point) name next
      (guarded.once ticket)
      fun passed other distinct also =>
        distinct ((passes ticket passed).2 other also)
    exact unique

/-- A turn that stores nothing and passes with no ticket keeps the invariant. -/
theorem Guarded.keep (guarded : Guarded calls redis points)
    (stand : points name = point)
    (moving : ∀ ticket, point ≠ .returned (.issued ticket))
    (stands : Stands (calls name) next)
    (passes : ∀ ticket, ¬ Passes ticket (calls name) next) :
    Guarded calls redis (Function.update points name next) :=
  guarded.update stand moving stands (fun _ present => .inl present)
    (fun ticket passed => absurd passed (passes ticket))
    (fun ticket passed => absurd passed.passes (passes ticket))
    guarded.gone

theorem Guarded.sets (fresh : FreshTickets calls)
    (guarded : Guarded calls redis points) {ticket userId : String}
    {ttlSec : Int} {entry : Perishable String Time}
    (stand : points name = .setting ticket userId ttlSec) :
    Guarded calls (redis.put (key ticket) entry)
      (Function.update points name (.returned (.issued ticket))) := by
  have stands := guarded.stands name
  rw [stand] at stands
  have drawn := stands.of_setting
  have unissued : ¬ Issued calls points ticket := by
    rintro ⟨issuer, otherUserId, otherTtlSec, alsoDrawn, ended⟩
    cases fresh name issuer _ _ _ _ _ drawn alsoDrawn
    cases stand.symm.trans ended
  refine guarded.update stand (fun _ => nofun) ?_ ?_
    (fun _ passed => passed.elim) (fun _ passed => passed.elim) ?_
  · rw [drawn]
    exact .issued ticket userId ttlSec
  · intro other present
    rw [Expiring.entries_put] at present
    split_ifs at present with same
    · cases key_injective same
      exact .inr ⟨name, userId, ttlSec, drawn, Function.update_self _ _ _⟩
    · exact .inl present
  · intro other passer passed
    rw [Expiring.entries_put, if_neg]
    · exact guarded.gone other passer passed
    · intro sameKey
      rw [key_injective sameKey] at passed
      exact unissued (guarded.issued ticket passer passed.passes)

/-- A request that reads its ticket while no other is about to delete it. -/
theorem Guarded.finds (guarded : Guarded calls redis points)
    {request : UpgradeRequest} {ticket userId : String}
    (stand : points name = .reading request ticket)
    (stored : redis.get now (key ticket) = some userId)
    (serial : Presents ticket (calls name) → ∀ other otherRequest otherUserId,
      points other = .deleting otherRequest ticket otherUserId →
        ¬ Presents ticket (calls other)) :
    Guarded calls redis
      (Function.update points name (.deleting request ticket userId)) := by
  have stands := guarded.stands name
  rw [stand] at stands
  have presented := stands.of_reading
  have present : redis.entries (key ticket) ≠ none := by
    rcases Expiring.get_eq_some_iff.mp stored with ⟨entry, found, -, -⟩
    rw [found]
    exact Option.some_ne_none entry
  refine guarded.update stand (fun _ => nofun) ?_
    (fun _ before => .inl before) ?_ (fun _ passed => passed.elim) guarded.gone
  · rw [presented.1]
    exact .deleting request ticket userId presented.2
  · intro other passes
    have presents : Presents other (calls name) := passes
    have same : other = ticket := by
      rw [presented.1] at presents
      exact Option.some.inj (presents.1.symm.trans presented.2)
    subst same
    refine ⟨guarded.stored other present, fun passer also => ?_⟩
    rcases also.deleting_or_passed (guarded.stands passer) with
      ⟨alsoPresents, ⟨otherRequest, otherUserId, point⟩ | passed⟩
    · exact absurd alsoPresents
        (serial presents passer otherRequest otherUserId point)
    · exact absurd (guarded.gone other passer passed) present

theorem Guarded.deletes (guarded : Guarded calls redis points)
    {request : UpgradeRequest} {ticket userId : String}
    (stand : points name = .deleting request ticket userId) :
    Guarded calls (redis.delete (key ticket))
      (Function.update points name
        (.returned (.answered (WsGateway.connect request userId)))) := by
  have stands := guarded.stands name
  rw [stand] at stands
  have presented := stands.of_deleting
  have passes {other : String}
      (passed : Passes other (calls name)
        (.returned (.answered (WsGateway.connect request userId)))) :
      Passes other (calls name) (points name) := by
    rw [stand]
    generalize WsGateway.connect request userId = answer at passed
    cases answer with
    | upgraded data => exact passed
    | response message status => exact passed.elim
  refine guarded.update stand (fun _ => nofun) ?_ ?_ ?_ ?_ ?_
  · rw [presented.1]
    exact .answered request _
  · intro other present
    rw [Expiring.entries_delete] at present
    split_ifs at present
    · exact absurd rfl present
    · exact .inl present
  · intro other passed
    exact ⟨guarded.issued other name (passes passed), fun passer also =>
      guarded.once other passer name also (passes passed)⟩
  · intro other passed
    have before := passes passed.passes
    rw [stand, presented.1] at before
    have presents : Presents other (.upgrade request) := before
    have sameTicket := Option.some.inj (presents.1.symm.trans presented.2)
    rw [Expiring.entries_delete, if_pos (congrArg key sameTicket)]
  · intro other passer passed
    rw [Expiring.entries_delete]
    split_ifs
    · rfl
    · exact guarded.gone other passer passed

/-- One turn keeps the invariant, unless it is an overlapping read. -/
theorem Guarded.move (fresh : FreshTickets calls)
    (guarded : Guarded calls redis points)
    (moves : Moves now redis (points name) next after)
    (serial : ∀ request ticket userId,
      points name = .reading request ticket →
        redis.get now (key ticket) = some userId → userId ≠ "" →
          Presents ticket (calls name) →
            ∀ other otherRequest otherUserId,
              points other = .deleting otherRequest ticket otherUserId →
                ¬ Presents ticket (calls other)) :
    Guarded calls after (Function.update points name next) := by
  have stands := (guarded.stands name).moves moves
  generalize stand : points name = point at moves
  cases moves with
  | refuses ticket userId ttlSec =>
      exact guarded.keep stand (fun _ => nofun) stands fun _ => id
  | sets ticket userId ttlSec valid => exact guarded.sets fresh stand
  | misses request ticket =>
      exact guarded.keep stand (fun _ => nofun) stands fun _ => id
  | finds request ticket userId stored named =>
      exact guarded.finds stand stored
        (serial request ticket userId stand stored named)
  | deletes request ticket userId => exact guarded.deletes stand
  | verifies request token answer =>
      refine guarded.keep stand (fun _ => nofun) stands ?_
      have before := guarded.stands name
      rw [stand] at before
      intro ticket passes
      cases answer with
      | upgraded data => exact before.of_verifying ticket passes
      | response message status => exact passes.elim
  | returned outcome =>
      rw [← stand, Function.update_eq_self]
      exact guarded
  | failed error =>
      rw [← stand, Function.update_eq_self]
      exact guarded

end Guarding

/-! ## Runs -/

section Runs

variable {calls : Name → TicketCall} {verifyAccess : VerifyAccess}
  {config : Calls Name}

/-- The calls stand at control points that satisfy the invariant. -/
def Invariant (calls : Name → TicketCall) (config : Calls Name) : Prop :=
  config.Described (fun _ point => point.program) (Guarded calls)

theorem invariant_begin (calls : Name → TicketCall) :
    Invariant calls (begin calls) := by
  refine ⟨fun name => .start (calls name), ?_, ?_⟩
  · funext name
    exact (ControlPoint.program_start (calls name)).symm
  exact
    { stands := fun name => stands_start (calls name)
      stored := fun ticket present => absurd rfl present
      issued := fun _ name passes => absurd passes (not_passes_start _ _)
      gone := fun _ _ _ => rfl
      once := fun _ name _ passes => absurd passes (not_passes_start _ _) }

theorem reading_of_get {point : ControlPoint} {ticket : String}
    (waits : point.program.pending = some (.get (key ticket))) :
    ∃ request, point = .reading request ticket := by
  cases point with
  | reading request other =>
      have same : key other = key ticket :=
        TicketOp.get.inj (Option.some.inj waits)
      exact ⟨request, by rw [key_injective same]⟩
  | setting other userId ttlSec => cases waits
  | deleting request other userId => cases waits
  | verifying request token => cases waits
  | returned outcome => cases waits
  | failed error => cases waits

theorem deleting_of_del {point : ControlPoint} {ticket : String}
    (waits : point.program.pending = some (.del (key ticket))) :
    ∃ request userId, point = .deleting request ticket userId := by
  cases point with
  | deleting request other userId =>
      have same : key other = key ticket :=
        TicketOp.del.inj (Option.some.inj waits)
      exact ⟨request, userId, by rw [key_injective same]⟩
  | setting other userId ttlSec => cases waits
  | reading request other => cases waits
  | verifying request token => cases waits
  | returned outcome => cases waits
  | failed error => cases waits

theorem returned_of_result {point : ControlPoint} {outcome : Outcome}
    (ended : point.program.result? = some outcome) :
    point = .returned outcome := by
  cases point with
  | returned other => exact congrArg _ (Option.some.inj ended)
  | setting ticket userId ttlSec => cases ended
  | reading request ticket => cases ended
  | deleting request ticket userId => cases ended
  | verifying request token => cases ended
  | failed error => cases ended

/-- A request that has been let through passes with its ticket. -/
theorem Invariant.singleUse (invariant : Invariant calls config) :
    SingleUse calls config := by
  rcases invariant with ⟨points, stand, guarded⟩
  intro ticket name other data otherData presents alsoPresents through also
  have passes {passer : Name} {passed : Connection}
      (presented : Presents ticket (calls passer))
      (letThrough : LetThrough config passer passed) :
      Passes ticket (calls passer) (points passer) := by
    unfold LetThrough at letThrough
    rw [stand] at letThrough
    rw [returned_of_result letThrough]
    exact presented
  exact guarded.once ticket name other (passes presents through)
    (passes alsoPresents also)

/-- A turn that overlaps reads. -/
theorem reads_of_overlaps {label : Name × Time}
    (overlaps : Overlaps calls config label) : Reads config label := by
  rcases overlaps with ⟨ticket, -, waits, -⟩
  exact ⟨ticket, waits⟩

variable [DecidableEq Name]

/-- One turn keeps the invariant, unless it is an overlapping read. -/
theorem Invariant.turn (fresh : FreshTickets calls)
    (invariant : Invariant calls config) {label : Name × Time}
    (serial : ¬ Overlaps calls config label) :
    Invariant calls (turn verifyAccess config label) := by
  refine Config.described_advance ?_ invariant
  intro points stand guarded
  rcases resume_moves verifyAccess label.2 config.shared (points label.1) with
    ⟨next, after, resumed, moves⟩
  refine ⟨next, after, resumed, guarded.move fresh moves ?_⟩
  intro request ticket userId reading stored named presents other
    otherRequest otherUserId deleting alsoPresents
  refine serial ⟨ticket, presents, ?_, ⟨userId, stored, named⟩, other,
    alsoPresents, ?_⟩
  · rw [Config.pending, stand]
    simp only [reading]
    rfl
  · rw [Config.pending, stand]
    simp only [deleting]
    rfl

theorem Invariant.singleUseAtRest (fresh : FreshTickets calls)
    (invariant : Invariant calls config) :
    SingleUseAtRest calls config verifyAccess := by
  intro rest quiet
  have kept (config : Calls Name) (label : Name × Time)
      (before : Invariant calls config) (unread : ¬ Reads config label) :
      Invariant calls (TicketStore.turn verifyAccess config label) :=
    before.turn fresh fun overlaps => unread (reads_of_overlaps overlaps)
  have last := (throughout_of_preserved kept invariant quiet).final
  exact last.singleUse

/-- What a request does once it has read a stored ticket. -/
theorem advance_finds {name : Name} {request : UpgradeRequest}
    {ticket userId : String} {now : Time}
    (reading : config.threads name =
      (ControlPoint.reading request ticket).program)
    (stored : config.shared.get now (key ticket) = some userId)
    (named : userId ≠ "") :
    TicketStore.turn verifyAccess config (name, now) =
      { shared := config.shared
        threads := Function.update config.threads name
          (ControlPoint.deleting request ticket userId).program } := by
  have answered : ticketAdapter verifyAccess (.get (key ticket)) now
      config.shared = .ok (some userId, config.shared) := by
    rw [← stored]
    rfl
  apply Config.advance_eq
  rw [reading, ControlPoint.program_reading]
  have found : ControlPoint.lookedUp request ticket (some userId) =
      .deleting request ticket userId := if_neg named
  rw [← found]
  exact Program.resume_call_ok _ answered

theorem advance_deletes {name : Name} {request : UpgradeRequest}
    {ticket userId : String} {now : Time}
    (deleting : config.threads name =
      (ControlPoint.deleting request ticket userId).program) :
    TicketStore.turn verifyAccess config (name, now) =
      { shared := config.shared.delete (key ticket)
        threads := Function.update config.threads name
          (.done (.answered (WsGateway.connect request userId))) } := by
  apply Config.advance_eq
  rw [deleting]
  rfl

/-- Two requests that are about to delete one ticket are both let through. -/
theorem not_singleUseAtRest_of_deleting {name other : Name}
    {request otherRequest : UpgradeRequest}
    {ticket userId otherUserId : String} {data otherData : Connection}
    (distinct : name ≠ other) (presents : Presents ticket (calls name))
    (alsoPresents : Presents ticket (calls other))
    (deleting : config.threads name =
      (ControlPoint.deleting request ticket userId).program)
    (alsoDeleting : config.threads other =
      (ControlPoint.deleting otherRequest ticket otherUserId).program)
    (through : WsGateway.connect request userId = .upgraded data)
    (otherThrough :
      WsGateway.connect otherRequest otherUserId = .upgraded otherData) :
    ¬ SingleUseAtRest calls config verifyAccess := by
  intro single
  have first : TicketStore.turn verifyAccess config (name, 0) = _ :=
    advance_deletes deleting
  have still : (TicketStore.turn verifyAccess config (name, 0)).threads other =
      (ControlPoint.deleting otherRequest ticket otherUserId).program := by
    rw [first]
    exact (Function.update_of_ne distinct.symm _ _).trans alsoDeleting
  have second : TicketStore.turn verifyAccess
      (TicketStore.turn verifyAccess config (name, 0)) (other, 0) = _ :=
    advance_deletes still
  have ends : (config.play (ticketAdapter verifyAccess)
      [(name, 0), (other, 0)]) = _ := second
  have quiet : Along (TicketStore.turn verifyAccess)
      (fun config label => ¬ Reads config label) config
      [(name, 0), (other, 0)] := by
    refine ⟨?_, ?_, trivial⟩
    · rintro ⟨looked, waits⟩
      unfold Config.pending at waits
      rw [deleting] at waits
      cases waits
    · rintro ⟨looked, waits⟩
      unfold Config.pending at waits
      rw [still] at waits
      cases waits
  have used := single _ quiet
  rw [ends] at used
  refine distinct (used ticket name other data otherData presents alsoPresents
    ?_ ?_)
  · unfold LetThrough
    rw [first]
    dsimp only
    rw [Function.update_of_ne distinct, Function.update_self, through]
    rfl
  · unfold LetThrough
    dsimp only
    rw [Function.update_self, otherThrough]
    rfl

/-- After an overlapping read two requests are let through. -/
theorem not_singleUseAtRest (invariant : Invariant calls config)
    {label : Name × Time} (overlaps : Overlaps calls config label) :
    ¬ SingleUseAtRest calls (TicketStore.turn verifyAccess config label)
      verifyAccess := by
  rcases invariant with ⟨points, stand, guarded⟩
  rcases label with ⟨name, now⟩
  obtain ⟨ticket, presents, waits, ⟨userId, stored, named⟩, other,
    alsoPresents, alsoWaits⟩ := overlaps
  have standAt (passer : Name) :
      config.threads passer = (points passer).program := by
    rw [stand]
  unfold Config.pending at waits alsoWaits
  rw [standAt] at waits alsoWaits
  rcases reading_of_get waits with ⟨request, reading⟩
  rcases deleting_of_del alsoWaits with ⟨otherRequest, otherUserId, deleting⟩
  have distinct : other ≠ name := by
    rintro rfl
    cases reading.symm.trans deleting
  have stands := guarded.stands name
  have alsoStands := guarded.stands other
  rw [reading] at stands
  rw [deleting] at alsoStands
  have asks := stands.of_reading.1
  have alsoAsks := alsoStands.of_deleting.1
  obtain ⟨data, through⟩ : ∃ data,
      WsGateway.connect request userId = .upgraded data := by
    rw [asks] at presents
    exact ⟨_, if_pos presents.2.2⟩
  obtain ⟨otherData, otherThrough⟩ : ∃ data,
      WsGateway.connect otherRequest otherUserId = .upgraded data := by
    rw [alsoAsks] at alsoPresents
    exact ⟨_, if_pos alsoPresents.2.2⟩
  have read := standAt name
  have otherRead := standAt other
  rw [reading] at read
  rw [deleting] at otherRead
  have first : TicketStore.turn verifyAccess config (name, now) = _ :=
    advance_finds read stored named
  generalize TicketStore.turn verifyAccess config (name, now) = afterRead
    at first ⊢
  have readThere : afterRead.threads name =
      (ControlPoint.deleting request ticket userId).program := by
    rw [first]
    exact Function.update_self _ _ _
  have otherThere : afterRead.threads other =
      (ControlPoint.deleting otherRequest ticket otherUserId).program := by
    rw [first]
    exact (Function.update_of_ne distinct _ _).trans otherRead
  exact not_singleUseAtRest_of_deleting distinct.symm presents alsoPresents
    readThere otherThere through otherThrough

end Runs

/-! ## When and for whom a ticket was read -/

/-- With the ticket the call has read the user id. -/
def HasRead (ticket userId : String) (call : TicketCall) :
    ControlPoint → Prop
  | .deleting _ _ read => Presents ticket call ∧ read = userId
  | .returned (.answered (.upgraded data)) =>
      Presents ticket call ∧ data.userId = userId
  | _ => False

theorem HasRead.passes {ticket userId : String} {call : TicketCall}
    {point : ControlPoint} (hasRead : HasRead ticket userId call point) :
    Passes ticket call point := by
  cases point with
  | deleting request other read => exact hasRead.1
  | returned outcome =>
      cases outcome with
      | issued other => exact hasRead.elim
      | answered answer =>
          cases answer with
          | upgraded data => exact hasRead.1
          | response message status => exact hasRead.elim
  | setting other read ttlSec => exact hasRead.elim
  | reading request other => exact hasRead.elim
  | verifying request token => exact hasRead.elim
  | failed error => exact hasRead.elim

section Tracing

variable [DecidableEq Name] {calls : Name → TicketCall}
  {verifyAccess : VerifyAccess}

theorem ReadInTime.append {schedule : List (Name × Time)} {name : Name}
    {ticket userId : String}
    (read : ReadInTime calls verifyAccess schedule name ticket userId)
    (rest : List (Name × Time)) :
    ReadInTime calls verifyAccess (schedule ++ rest) name ticket userId := by
  obtain ⟨before, now, after, issuer, ttlSec, issuedAt, rfl, waits⟩ := read
  refine ⟨before, now, after ++ rest, issuer, ttlSec, issuedAt, ?_, waits⟩
  rw [List.append_assoc, List.cons_append]

/-- What is stored has been issued, and what has been read was in time. -/
structure Traced (calls : Name → TicketCall) (verifyAccess : VerifyAccess)
    (schedule : List (Name × Time)) (redis : RedisStrings)
    (points : Name → ControlPoint) : Prop where
  stands : ∀ name, Stands (calls name) (points name)
  stored : ∀ ticket entry, redis.entries (key ticket) = some entry →
    ∃ issuer ttlSec issuedAt,
      calls issuer = .issue ticket entry.value ttlSec ∧
        (begin calls).Performs (ticketAdapter verifyAccess) schedule issuer
          (.set (key ticket) entry.value ttlSec) issuedAt () ∧
        entry.expiresAt = some (issuedAt + ttlSec * 1000)
  read : ∀ ticket userId name,
    HasRead ticket userId (calls name) (points name) →
      ReadInTime calls verifyAccess schedule name ticket userId

theorem Traced.update {schedule : List (Name × Time)}
    {redis after : RedisStrings} {points : Name → ControlPoint}
    {next : ControlPoint} {label : Name × Time}
    (traced : Traced calls verifyAccess schedule redis points)
    (stands : Stands (calls label.1) next)
    (stored : ∀ ticket entry, after.entries (key ticket) = some entry →
      redis.entries (key ticket) = some entry ∨
        ∃ issuer ttlSec issuedAt,
          calls issuer = .issue ticket entry.value ttlSec ∧
            (begin calls).Performs (ticketAdapter verifyAccess)
              (schedule ++ [label]) issuer
              (.set (key ticket) entry.value ttlSec) issuedAt () ∧
            entry.expiresAt = some (issuedAt + ttlSec * 1000))
    (read : ∀ ticket userId, HasRead ticket userId (calls label.1) next →
      HasRead ticket userId (calls label.1) (points label.1) ∨
        ReadInTime calls verifyAccess (schedule ++ [label]) label.1 ticket
          userId) :
    Traced calls verifyAccess (schedule ++ [label]) after
      (Function.update points label.1 next) := by
  constructor
  · exact stands_update traced.stands stands
  · intro ticket entry present
    rcases stored ticket entry present with before | now
    · obtain ⟨issuer, ttlSec, issuedAt, drawn, performs, expires⟩ :=
        traced.stored ticket entry before
      exact ⟨issuer, ttlSec, issuedAt, drawn, performs.concat label, expires⟩
    · exact now
  · intro ticket userId name hasRead
    by_cases same : name = label.1
    · subst same
      rw [Function.update_self] at hasRead
      rcases read ticket userId hasRead with before | now
      · exact (traced.read ticket userId _ before).append [label]
      · exact now
    · rw [Function.update_of_ne same] at hasRead
      exact (traced.read ticket userId name hasRead).append [label]

theorem Traced.move {schedule : List (Name × Time)}
    {redis after : RedisStrings} {points : Name → ControlPoint}
    {next : ControlPoint} {label : Name × Time}
    (traced : Traced calls verifyAccess schedule redis points)
    (waits : ((begin calls).play (ticketAdapter verifyAccess)
      schedule).pending label.1 = (points label.1).program.pending)
    (moves : Moves label.2 redis (points label.1) next after) :
    Traced calls verifyAccess (schedule ++ [label]) after
      (Function.update points label.1 next) := by
  have before := traced.stands label.1
  refine traced.update (before.moves moves) ?_ ?_
  · generalize points label.1 = point at waits moves before
    intro ticket entry present
    cases moves with
    | sets drawn userId ttlSec valid =>
        rw [Expiring.entries_put] at present
        split_ifs at present with same
        · cases present
          rw [key_injective same]
          exact .inr ⟨label.1, ttlSec, label.2, before.of_setting,
            Config.performs_concat_iff.mpr
              (.inr ⟨rfl, waits, _, if_neg valid⟩), rfl⟩
        · exact .inl present
    | deletes request other userId =>
        rw [Expiring.entries_delete] at present
        split_ifs at present
        exact .inl present
    | refuses _ _ _ => exact .inl present
    | misses _ _ => exact .inl present
    | finds _ _ _ _ _ => exact .inl present
    | verifies _ _ _ => exact .inl present
    | returned _ => exact .inl present
    | failed _ => exact .inl present
  · generalize points label.1 = point at waits moves before
    intro ticket userId hasRead
    cases moves with
    | finds request other read stored named =>
        rcases hasRead with ⟨presents, rfl⟩
        have presented := before.of_reading
        rw [presented.1] at presents
        cases Option.some.inj (presented.2.symm.trans presents.1)
        rcases Expiring.get_eq_some_iff.mp stored with
          ⟨entry, found, alive, rfl⟩
        obtain ⟨issuer, ttlSec, issuedAt, drawn, performs, expires⟩ :=
          traced.stored ticket entry found
        exact .inr ⟨schedule, label.2, [], issuer, ttlSec, issuedAt, rfl,
          waits, drawn, performs, alive _ expires⟩
    | deletes request other read =>
        refine .inl ?_
        unfold WsGateway.connect at hasRead
        split_ifs at hasRead
        · exact hasRead
        · exact hasRead.elim
    | verifies request token answer =>
        cases answer with
        | response message status => exact hasRead.elim
        | upgraded data =>
            exact absurd hasRead.1 (before.of_verifying ticket)
    | returned outcome => exact .inl hasRead
    | refuses _ _ _ => exact hasRead.elim
    | sets _ _ _ _ => exact hasRead.elim
    | misses _ _ => exact hasRead.elim
    | failed _ => exact hasRead.elim

/-- In every schedule, what has been read was in time. -/
theorem traced_play (schedule : List (Name × Time)) :
    ((begin calls).play (ticketAdapter verifyAccess) schedule).Described
      (fun _ point => point.program) (Traced calls verifyAccess schedule) := by
  induction schedule using List.reverseRecOn with
  | nil =>
      refine ⟨fun name => .start (calls name), ?_, ?_⟩
      · funext name
        exact (ControlPoint.program_start (calls name)).symm
      · exact
          { stands := fun name => stands_start (calls name)
            stored := fun ticket entry present => by cases present
            read := fun ticket userId name hasRead =>
              absurd hasRead.passes (not_passes_start ticket (calls name)) }
  | append_singleton schedule label induction =>
      have played : (begin calls).play (ticketAdapter verifyAccess)
          (schedule ++ [label]) = TicketStore.turn verifyAccess
            ((begin calls).play (ticketAdapter verifyAccess) schedule) label :=
        run_concat _ _ _ _
      rw [played]
      refine Config.described_advance ?_ induction
      intro points stand traced
      obtain ⟨next, after, resumed, moves⟩ := resume_moves verifyAccess label.2
        ((begin calls).play (ticketAdapter verifyAccess) schedule).shared
        (points label.1)
      refine ⟨next, after, resumed, traced.move ?_ moves⟩
      rw [Config.pending, stand]

end Tracing

/-! ## Single use -/

/--
A ticket lets at most one request through, in its time and for the user it was
issued to, exactly in the runs in which no request reads a ticket that another
one is about to delete.
-/
theorem tickets_single_use_iff [DecidableEq Name] (verifyAccess : VerifyAccess)
    (calls : Name → TicketCall) (fresh : FreshTickets calls)
    (schedule : List (Name × Time)) :
    (Throughout (turn verifyAccess)
        (fun config => SingleUseAtRest calls config verifyAccess)
        (begin calls) schedule ∧
      ∀ ticket name data, Presents ticket (calls name) →
        LetThrough ((begin calls).play (ticketAdapter verifyAccess) schedule)
            name data →
          ReadInTime calls verifyAccess schedule name ticket data.userId) ↔
      Along (turn verifyAccess) (fun config label =>
        ¬ Overlaps calls config label) (begin calls) schedule := by
  have inTime : ∀ ticket name data, Presents ticket (calls name) →
      LetThrough ((begin calls).play (ticketAdapter verifyAccess) schedule)
          name data →
        ReadInTime calls verifyAccess schedule name ticket data.userId := by
    intro ticket name data presents through
    have described : ((begin calls).play (ticketAdapter verifyAccess)
        schedule).Described (fun _ point => point.program)
          (Traced calls verifyAccess schedule) :=
      traced_play schedule
    rcases described with ⟨points, stand, traced⟩
    apply traced.read ticket data.userId name
    unfold LetThrough at through
    rw [stand] at through
    rw [returned_of_result through]
    exact ⟨presents, rfl⟩
  rw [and_iff_left inTime]
  have kept (config : Calls Name) (label : Name × Time)
      (invariant : Invariant calls config) (_ : True)
      (serial : ¬ Overlaps calls config label) :
      Invariant calls (turn verifyAccess config label) :=
    invariant.turn fresh serial
  have lost (config : Calls Name) (label : Name × Time)
      (invariant : Invariant calls config) (_ : True)
      (overlaps : ¬ ¬ Overlaps calls config label) :
      ¬ SingleUseAtRest calls (turn verifyAccess config label) verifyAccess :=
    not_singleUseAtRest invariant (not_not.mp overlaps)
  exact throughout_iff_along_of_shape
    (fun _ invariant => invariant.singleUseAtRest fresh) kept lost
    (invariant_begin calls) (along_of_forall (fun _ _ => trivial) _ schedule)

/-! ## Two requests -/

/-- A request that presents the ticket. -/
def sampleRequest (connId : String) : UpgradeRequest where
  ticket := some "ticket"
  token := none
  connId
  upgrades := true

/-- A ticket is issued, and two requests present it. -/
def twoRequests : Option Bool → TicketCall
  | none => .issue "ticket" "user" 30
  | some false => .upgrade (sampleRequest "first")
  | some true => .upgrade (sampleRequest "second")

theorem freshTickets_twoRequests : FreshTickets twoRequests := by
  have issuer {name : Option Bool} {ticket userId : String} {ttlSec : Int}
      (issues : twoRequests name = .issue ticket userId ttlSec) :
      name = none := by
    match name with
    | none => rfl
    | some false => cases issues
    | some true => cases issues
  intro name other ticket userId otherUserId ttlSec otherTtlSec issues also
  exact (issuer issues).trans (issuer also).symm

/-- One request after the other: the second finds no ticket. -/
theorem tickets_single_use_iff_twoRequests :
    Throughout (turn fun _ _ => none)
      (fun config => SingleUseAtRest twoRequests config fun _ _ => none)
      (begin twoRequests)
      [(none, 0), (some false, 5), (some false, 6), (some true, 7)] :=
  ((tickets_single_use_iff _ twoRequests freshTickets_twoRequests _).mpr
    (by decide)).1

/-- Turn by turn, both requests are let through. -/
theorem ticket_used_twice :
    FreshTickets twoRequests ∧
      ¬ SingleUse twoRequests ((begin twoRequests).play
        (ticketAdapter fun _ _ => none)
        [(none, 0), (some false, 5), (some true, 6), (some false, 7),
          (some true, 8)]) := by
  refine ⟨freshTickets_twoRequests, fun single => ?_⟩
  have equal := single "ticket" (some false) (some true) ⟨"first", "user"⟩
    ⟨"second", "user"⟩ (by decide) (by decide) rfl rfl
  cases equal

end ChatBackend.Ws.SingleUseTickets
