import ChatBackend.Collections.ExpiringRankings
import ChatBackend.Domain
import ChatBackend.Effects.Program
import ChatBackend.Transition.Runs
import Mathlib.Data.Int.Order.Basic

/-!
# The rate limiter

`RedisRateLimiter` keeps, for every key, a ranking of the attempts by their
times.  An attempt prunes the ranking, adds itself, renews the expiry of the
ranking and counts what is there.  The middleware `rateLimit` forms the key
from the request and lets it through or throws.

Redis and the server read one clock, and the commands of an attempt take no
time.  What `Math.random()` draws comes from outside, as the text it prints.
-/

namespace ChatBackend.Http.RateLimit

open Collections
open Effects
open Transition

/-! ## Commands -/

inductive RateOp where
  /-- `ZREMRANGEBYSCORE key -inf highest` -/
  | zremrangebyscore (key : String) (highest : Time)
  | zadd (key : String) (score : Time) (member : String)
  | pexpire (key : String) (milliseconds : Int)
  | zcard (key : String)
deriving DecidableEq, Repr

/-- The first two commands count what they remove and add. -/
abbrev RateOp.Answer : RateOp → Type
  | .zremrangebyscore _ _ => Nat
  | .zadd _ _ _ => Nat
  | .pexpire _ _ => Bool
  | .zcard _ => Nat

abbrev RatePort : Port where
  Op := RateOp
  Answer := RateOp.Answer

abbrev RateProgram (Result : Type) := Program RatePort Failure Result

/-- Await one operation of the port. -/
abbrev RateOp.await (op : RateOp) : RateProgram op.Answer :=
  @Program.perform RatePort Failure op

/-- The rankings that Redis keeps. -/
abbrev RedisRankings := ExpiringRankings String String Time Time

def rateAdapter : Adapter RatePort Time RedisRankings Failure
  | .zremrangebyscore key highest, now, redis =>
      let after := redis.zremrangebyscore now key highest
      .ok (redis.zcard now key - after.zcard now key, after)
  | .zadd key score member, now, redis =>
      .ok ((if member ∈ (redis.contents now key).map Prod.fst then 0 else 1),
        redis.zadd now key member score)
  | .pexpire key milliseconds, now, redis =>
      .ok ((redis.live now key).isSome,
        redis.expireAt now key (now + milliseconds))
  | .zcard key, now, redis => .ok (redis.zcard now key, redis)

/-! ## The limiter -/

structure RateLimitResult where
  allowed : Bool
  remaining : Int
  /-- In seconds since the epoch. -/
  resetAt : Int
deriving DecidableEq, Repr

namespace RedisRateLimiter

def redisKey (key : String) : String :=
  "rl:" ++ key

theorem redisKey_injective : Function.Injective redisKey :=
  fun _ _ same => (String.append_right_inj _).mp same

/-- The member under which an attempt is ranked. -/
def member (now : Time) (random : String) : String :=
  toString now ++ ":" ++ random

/-- `Math.ceil((now + windowMs) / 1000)` -/
def resetAt (now windowMs : Int) : Int :=
  -(-(now + windowMs) / 1000)

/-- `now` and `random` are the readings of `Date.now()` and `Math.random()`. -/
def consume (now : Time) (random key : String) (max windowSec : Int) :
    RateProgram RateLimitResult := do
  let windowMs := windowSec * 1000
  let windowStart := now - windowMs
  let resetAt := resetAt now windowMs
  let _ ← RateOp.await (.zremrangebyscore (redisKey key) windowStart)
  let _ ← RateOp.await (.zadd (redisKey key) now (member now random))
  let _ ← RateOp.await (.pexpire (redisKey key) (windowMs * 2))
  let count ← RateOp.await (.zcard (redisKey key))
  if (count : Int) > max then
    return { allowed := false, remaining := 0, resetAt }
  else
    return { allowed := true, remaining := max - count, resetAt }

end RedisRateLimiter

/-! ## The middleware -/

inductive KeyBy where
  | ip
  | user
deriving DecidableEq, Repr

/-- What the middleware reads of a request. -/
structure LimitedRequest where
  userId : Option String
  xForwardedFor : Option String
  xRealIp : Option String
deriving DecidableEq, Repr

/-- `trim` of a header value, whose blanks are spaces and tabs. -/
def trim (text : String) : String :=
  let blank (c : Char) : Bool := c = ' ' || c = '\t'
  String.ofList
    ((text.toList.dropWhile blank).reverse.dropWhile blank).reverse

def subject (keyBy : KeyBy) (request : LimitedRequest) : String :=
  let address :=
    ((request.xForwardedFor.map fun header =>
      trim ((header.splitOn ",").headD "")) <|> request.xRealIp).getD "unknown"
  if keyBy = .user then
    -- an empty user id is falsy
    (request.userId.filter fun userId => userId ≠ "").getD address
  else address

/-- What a request draws; `later` is the reading of the clock on a refusal. -/
structure RateDraws where
  now : Time
  random : String
  later : Time
deriving DecidableEq, Repr

def rateLimit {Response : Type} (draws : RateDraws) (key : String)
    (max windowSec : Int) (keyBy : KeyBy) (request : LimitedRequest)
    (next : RateProgram Response) : RateProgram Response := do
  let result ← RedisRateLimiter.consume draws.now draws.random
    (key ++ ":" ++ subject keyBy request) max windowSec
  if ¬ result.allowed then
    .fail (.rateLimitError (Max.max 0 (result.resetAt - draws.later / 1000)))
  else next

/-! ## Attempts one after another -/

/-- A call of `consume` and what it draws. -/
structure Attempt where
  key : String
  max : Int
  windowSec : Int
  now : Time
  random : String
deriving DecidableEq, Repr

namespace Attempt

def windowMs (attempt : Attempt) : Int :=
  attempt.windowSec * 1000

def member (attempt : Attempt) : String :=
  RedisRateLimiter.member attempt.now attempt.random

def program (attempt : Attempt) : RateProgram RateLimitResult :=
  RedisRateLimiter.consume attempt.now attempt.random attempt.key attempt.max
    attempt.windowSec

end Attempt

/-- The limiter as it answers attempts one after another. -/
def limiter :
    Machine RedisRankings Attempt (Except Failure RateLimitResult) where
  step redis attempt := attempt.program.run rateAdapter attempt.now redis

/-! ## What an attempt does -/

section Steps

open ExpiringRankings
open RedisRateLimiter

/-- The rankings with the attempt pruned, added and renewed. -/
def recorded (redis : RedisRankings) (attempt : Attempt) : RedisRankings :=
  (((redis.zremrangebyscore attempt.now (redisKey attempt.key)
      (attempt.now - attempt.windowMs)).zadd attempt.now
        (redisKey attempt.key) attempt.member attempt.now).expireAt attempt.now
          (redisKey attempt.key) (attempt.now + attempt.windowMs * 2))

/-- What an attempt is told that counts so many attempts. -/
def verdict (attempt : Attempt) (count : Nat) : RateLimitResult :=
  if (count : Int) > attempt.max then
    { allowed := false
      remaining := 0
      resetAt := resetAt attempt.now attempt.windowMs }
  else
    { allowed := true
      remaining := attempt.max - count
      resetAt := resetAt attempt.now attempt.windowMs }

theorem limiter_step (redis : RedisRankings) (attempt : Attempt) :
    limiter.step redis attempt =
      (.ok (verdict attempt ((recorded redis attempt).zcard attempt.now
        (redisKey attempt.key))), recorded redis attempt) := by
  unfold verdict
  by_cases exceeds : (((recorded redis attempt).zcard attempt.now
      (redisKey attempt.key) : Nat) : Int) > attempt.max
  · rw [if_pos exceeds]
    refine (Program.run_call_ok _ rfl).trans ?_
    refine (Program.run_call_ok _ rfl).trans ?_
    refine (Program.run_call_ok _ rfl).trans ?_
    refine (Program.run_call_ok _ rfl).trans ?_
    exact congrArg (Program.run rateAdapter attempt.now · _) (if_pos exceeds)
  · rw [if_neg exceeds]
    refine (Program.run_call_ok _ rfl).trans ?_
    refine (Program.run_call_ok _ rfl).trans ?_
    refine (Program.run_call_ok _ rfl).trans ?_
    refine (Program.run_call_ok _ rfl).trans ?_
    exact congrArg (Program.run rateAdapter attempt.now · _) (if_neg exceeds)

variable {redis : RedisRankings} {attempt : Attempt} {later : Time}
  {key : String}

/-- The attempt that the middleware makes for a request. -/
def requestAttempt (draws : RateDraws) (key : String) (max windowSec : Int)
    (keyBy : KeyBy) (request : LimitedRequest) : Attempt where
  key := key ++ ":" ++ subject keyBy request
  max := max
  windowSec := windowSec
  now := draws.now
  random := draws.random

/-- A request goes on if its attempt is allowed and throws otherwise. -/
theorem run_rateLimit {Response : Type} (draws : RateDraws) (key : String)
    (max windowSec : Int) (keyBy : KeyBy) (request : LimitedRequest)
    (next : RateProgram Response) :
    let attempt := requestAttempt draws key max windowSec keyBy request
    let result := verdict attempt
      ((recorded redis attempt).zcard attempt.now (redisKey attempt.key))
    (rateLimit draws key max windowSec keyBy request next).run rateAdapter
        draws.now redis =
      if result.allowed then
        next.run rateAdapter draws.now (recorded redis attempt)
      else
        (.error (.rateLimitError
          (Max.max 0 (result.resetAt - draws.later / 1000))),
          recorded redis attempt) := by
  intro attempt result
  have consumed : (RedisRateLimiter.consume draws.now draws.random
      (key ++ ":" ++ subject keyBy request) max windowSec).run rateAdapter
        draws.now redis = (.ok result, recorded redis attempt) :=
    limiter_step redis attempt
  unfold rateLimit
  rw [Program.run_bind, consumed]
  dsimp only
  cases result.allowed <;> rfl

/-- An attempt leaves the rankings of other keys. -/
theorem contents_recorded_of_ne (elsewhere : key ≠ attempt.key) :
    (recorded redis attempt).contents later (redisKey key) =
      redis.contents later (redisKey key) := by
  have other : redisKey key ≠ redisKey attempt.key :=
    fun same => elsewhere (redisKey_injective same)
  unfold recorded
  rw [contents_expireAt_of_ne other, contents_zadd_of_ne other,
    contents_zremrangebyscore_of_ne other]

/-- The entries that pruning leaves to an attempt. -/
def pruned (redis : RedisRankings) (attempt : Attempt) :
    List (String × Time) :=
  (redis.contents attempt.now (redisKey attempt.key)).filter
    fun entry => decide (attempt.now - attempt.windowMs < entry.2)

/-- A new attempt comes after those that pruning leaves, until all expire. -/
theorem contents_recorded
    (absent : attempt.member ∉ (pruned redis attempt).map Prod.fst)
    (passed : attempt.now ≤ later) :
    (recorded redis attempt).contents later (redisKey attempt.key) =
      if later < attempt.now + attempt.windowMs * 2 then
        pruned redis attempt ++ [(attempt.member, attempt.now)]
      else [] := by
  unfold recorded
  rw [contents_expireAt passed, contents_zadd, contents_zremrangebyscore]
  · rfl
  · rw [contents_zremrangebyscore]
    exact absent

end Steps

end ChatBackend.Http.RateLimit
