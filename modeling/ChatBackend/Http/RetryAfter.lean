import ChatBackend.Http.SlidingWindow

/-!
# Waiting for as long as a refusal says

A refused request is told after how many seconds it may try again.  The number
is rounded twice, up with the end of the window and down with a later reading of
the clock, and is never negative.

Who waits for so long finds the window past every earlier attempt, those that
were refused included: nothing in the ranking is later than the refusal.
-/

namespace ChatBackend.Http.RetryAfter

open Collections
open Transition
open ChatBackend.Http.RateLimit
open ChatBackend.Http.RateLimit.RedisRateLimiter
open ChatBackend.Http.SlidingWindow

/-- From the time on, the ranking of the key holds nothing that is later. -/
def NothingAfter (key : String) (time : Time) (redis : RedisRankings) : Prop :=
  ∀ later, time ≤ later →
    ∀ entry ∈ redis.contents later (redisKey key), entry.2 ≤ time

section Attempts

variable {redis : RedisRankings} {attempt : Attempt} {key : String}
  {time later : Time}

theorem nothingAfter_empty (key : String) (time : Time) :
    NothingAfter key time .empty :=
  fun _ _ _ none => absurd none List.not_mem_nil

theorem NothingAfter.mono (nothing : NothingAfter key time redis)
    (passed : time ≤ later) : NothingAfter key later redis :=
  fun moment after entry member =>
    (nothing moment (passed.trans after) entry member).trans passed

/-- What an attempt leaves was there before, but for the attempt itself. -/
theorem mem_contents_recorded {entry : String × Time}
    (passed : attempt.now ≤ later)
    (member : entry ∈
      (recorded redis attempt).contents later (redisKey attempt.key)) :
    entry = (attempt.member, attempt.now) ∨ entry ∈ pruned redis attempt := by
  unfold recorded at member
  rw [ExpiringRankings.contents_expireAt passed] at member
  split_ifs at member
  · have added := ExpiringRankings.mem_contents_zadd member
    rw [ExpiringRankings.contents_zremrangebyscore] at added
    exact added
  · cases member

theorem NothingAfter.recorded (nothing : NothingAfter key time redis)
    (passed : time ≤ attempt.now) :
    NothingAfter key attempt.now (recorded redis attempt) := by
  intro later after entry member
  by_cases same : attempt.key = key
  · subst same
    rcases mem_contents_recorded after member with rfl | kept
    · exact le_rfl
    · have old := (List.mem_filter.mp kept).1
      exact (nothing attempt.now passed entry old).trans passed
  · rw [contents_recorded_of_ne (Ne.symm same)] at member
    exact (nothing later (passed.trans after) entry member).trans passed

/-- An attempt whose window starts after all that is stored is alone. -/
theorem NothingAfter.zcard_le_one (nothing : NothingAfter attempt.key time redis)
    (waited : time ≤ attempt.now) (past : time ≤ attempt.now - attempt.windowMs) :
    (RateLimit.recorded redis attempt).zcard attempt.now
      (redisKey attempt.key) ≤ 1 := by
  have none : pruned redis attempt = [] := by
    rw [pruned, List.filter_eq_nil_iff]
    intro entry member
    have stored := nothing attempt.now waited entry member
    simpa using stored.trans past
  have absent : attempt.member ∉ (pruned redis attempt).map Prod.fst := by
    rw [none]
    exact List.not_mem_nil
  unfold ExpiringRankings.zcard
  rw [contents_recorded absent le_rfl, none]
  split_ifs
  · exact le_rfl
  · exact Nat.zero_le 1

/-! ## Runs -/

/-- Whatever the attempts were, none is stored under a later time. -/
theorem nothingAfter_reach {attempts : List Attempt}
    (ordered : NonDecreasing attempts)
    (last : ∀ attempt ∈ attempts, attempt.now ≤ time) :
    NothingAfter key time (limiter.reach .empty attempts) := by
  induction attempts using List.reverseRecOn generalizing time with
  | nil => exact nothingAfter_empty key time
  | append_singleton attempts attempt induction =>
      obtain ⟨orderedBefore, orderedLast⟩ := ordered.last
      rw [Machine.reach_concat, limiter_step]
      have before := induction orderedBefore orderedLast
      exact (before.recorded le_rfl).mono (last attempt List.mem_concat_self)

/-- Attempts on other keys leave the ranking as it is. -/
theorem NothingAfter.reach_of_elsewhere {attempts : List Attempt}
    (nothing : NothingAfter key time redis)
    (elsewhere : ∀ attempt ∈ attempts, attempt.key ≠ key) :
    NothingAfter key time (limiter.reach redis attempts) := by
  induction attempts generalizing redis with
  | nil => exact nothing
  | cons attempt rest induction =>
      rw [List.forall_mem_cons] at elsewhere
      refine induction ?_ elsewhere.2
      intro later passed entry member
      dsimp only at member
      rw [limiter_step, contents_recorded_of_ne elsewhere.1.symm] at member
      exact nothing later passed entry member

end Attempts

/-! ## The hint -/

/-- The seconds that a refusal names. -/
def retryAfter (resetAt : Int) (later : Time) : Int :=
  Max.max 0 (resetAt - later / 1000)

/-- The two roundings never make the wait too short. -/
theorem le_of_waited {now windowMs later moment : Int} (reads : now ≤ later)
    (waited : later + 1000 * retryAfter (resetAt now windowMs) later ≤ moment) :
    now ≤ moment ∧ now ≤ moment - windowMs := by
  have roundedUp : now + windowMs ≤ 1000 * resetAt now windowMs := by
    unfold resetAt
    omega
  have roundedDown : 1000 * (later / 1000) ≤ later := by omega
  have enough : resetAt now windowMs - later / 1000 ≤
      retryAfter (resetAt now windowMs) later := le_max_right _ _
  have never : 0 ≤ retryAfter (resetAt now windowMs) later := le_max_left _ _
  omega

/--
A refusal names a number of seconds.  Whoever attempts again once they have
passed, with no other attempt on the key in between, is allowed.
-/
theorem retry_after_suffices {Response : Type} {before : List Attempt}
    {draws : RateDraws} {key : String} {max windowSec : Int} {keyBy : KeyBy}
    {request : LimitedRequest} (next : RateProgram Response)
    (positive : 1 ≤ max) (reads : draws.now ≤ draws.later)
    (ordered : NonDecreasing
      (before ++ [requestAttempt draws key max windowSec keyBy request]))
    (refused : ¬ Allows (limiter.step (limiter.reach .empty before)
      (requestAttempt draws key max windowSec keyBy request)).1) :
    let attempt := requestAttempt draws key max windowSec keyBy request
    ∃ seconds,
      (RateLimit.rateLimit draws key max windowSec keyBy request next).run
          rateAdapter draws.now (limiter.reach .empty before) =
        (.error (.rateLimitError seconds),
          limiter.reach .empty (before ++ [attempt])) ∧
      ∀ (between : List Attempt) (retry : Attempt),
        (∀ other ∈ between, other.key ≠ attempt.key) →
        retry.key = attempt.key → retry.max = max →
        retry.windowSec = windowSec →
        draws.later + 1000 * seconds ≤ retry.now →
          Allows (limiter.step
            (limiter.reach .empty (before ++ attempt :: between)) retry).1 := by
  intro attempt
  let redis := limiter.reach .empty before
  let result := verdict attempt
    ((recorded redis attempt).zcard attempt.now (redisKey attempt.key))
  have step : limiter.step redis attempt =
      (.ok result, recorded redis attempt) := limiter_step redis attempt
  have denied : result.allowed = false := by
    rw [step] at refused
    exact Bool.not_eq_true _ ▸ refused
  have resets : result.resetAt = resetAt attempt.now attempt.windowMs := by
    rw [show result = verdict attempt _ from rfl, verdict_eq]
  refine ⟨retryAfter result.resetAt draws.later, ?_, ?_⟩
  · rw [run_rateLimit, Machine.reach_concat, step]
    exact if_neg (by simpa using denied)
  · intro between retry elsewhere sameKey sameMax sameWindow waited
    rw [resets] at waited
    obtain ⟨after, past⟩ := le_of_waited reads waited
    have last : ∀ other ∈ before ++ [attempt], other.now ≤ attempt.now := by
      intro other member
      rcases List.mem_append.mp member with old | new
      · exact ordered.last.2 other old
      · rw [List.mem_singleton.mp new]
    have nothing : NothingAfter attempt.key attempt.now _ :=
      (nothingAfter_reach ordered last).reach_of_elsewhere elsewhere
    rw [← Machine.reach_append, List.append_assoc, List.singleton_append]
      at nothing
    have window : retry.windowMs = attempt.windowMs := by
      rw [Attempt.windowMs, sameWindow]
      rfl
    rw [← sameKey] at nothing
    have alone := nothing.zcard_le_one after (window ▸ past)
    rw [limiter_step, Allows, verdict_eq]
    refine decide_eq_true ?_
    rw [sameMax]
    exact (Int.ofNat_le.mpr alone).trans positive

/-- A request to log in, whose clock is read again on a refusal. -/
def loginDraws : RateDraws where
  now := 59999
  random := "0.75"
  later := 60000

def loginRequest : LimitedRequest where
  userId := none
  xForwardedFor := none
  xRealIp := some "1.2.3.4"

/-- The third attempt of a minute is refused, but not once it has waited. -/
theorem retry_after_suffices_loginAttempts :
    (RateLimit.rateLimit loginDraws "login" 2 60 .ip loginRequest
      (.done ())).run rateAdapter 59999
        (limiter.reach .empty
          [loginAttempt 0 "0.25", loginAttempt 59999 "0.5"]) =
      (.error (.rateLimitError 60),
        limiter.reach .empty
          [loginAttempt 0 "0.25", loginAttempt 59999 "0.5",
            loginAttempt 59999 "0.75"]) ∧
    Allows (limiter.step
      (limiter.reach .empty
        [loginAttempt 0 "0.25", loginAttempt 59999 "0.5",
          loginAttempt 59999 "0.75"])
      (loginAttempt 120000 "0.125")).1 := by
  obtain ⟨seconds, told, allowed⟩ := @retry_after_suffices Unit
    [loginAttempt 0 "0.25", loginAttempt 59999 "0.5"] loginDraws "login" 2 60
    .ip loginRequest (.done ()) (by decide) (by decide) (by decide) (by decide)
  have computed : ((RateLimit.rateLimit loginDraws "login" 2 60 .ip loginRequest
      (.done ())).run rateAdapter 59999 (limiter.reach .empty
        [loginAttempt 0 "0.25", loginAttempt 59999 "0.5"])).1 =
      .error (.rateLimitError 60) := by
    decide
  cases computed.symm.trans (congrArg Prod.fst told)
  exact ⟨told, allowed [] (loginAttempt 120000 "0.125") nofun rfl rfl rfl
    (by decide)⟩

end ChatBackend.Http.RetryAfter
