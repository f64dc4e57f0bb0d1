import ChatBackend.Http.RateLimit
import Mathlib.Data.List.Count
import Mathlib.Data.List.Nodup

/-!
# The limiter counts a sliding window

The reference for the limiter remembers every attempt and counts those on the
key within the window that ends now.  The limiter forgets: it prunes what the
window has passed over and lets the whole ranking expire after two windows.
Whatever it has forgotten lies outside of every later window, which is the
invariant `Remembers`.
-/

namespace ChatBackend.Http.SlidingWindow

open Collections
open Transition
open ChatBackend.Http.RateLimit
open ChatBackend.Http.RateLimit.RedisRateLimiter

/-! ## Specification -/

section Specification

variable (attempts : List Attempt)

/-- The attempts on the key in the window that ends at the time. -/
def attemptsWithin (key : String) (windowMs now : Time) : Nat :=
  attempts.countP fun attempt =>
    attempt.key = key ∧ now - windowMs < attempt.now ∧ attempt.now ≤ now

/-- What the attempt is told by the history before it, which is never pruned. -/
def reference (before : List Attempt) (attempt : Attempt) : RateLimitResult :=
  let count := attemptsWithin (before ++ [attempt]) attempt.key
    attempt.windowMs attempt.now
  { allowed := (count : Int) ≤ attempt.max
    remaining := if (count : Int) ≤ attempt.max then attempt.max - count else 0
    resetAt := resetAt attempt.now attempt.windowMs }

/-- Whether an attempt has been allowed. -/
def Allows : Except Failure RateLimitResult → Bool
  | .ok result => result.allowed
  | .error _ => false

/-- The attempts that the limiter allows, in their order. -/
def granted : List Attempt :=
  ((attempts.zip (limiter.answers .empty attempts)).filter
    fun served => Allows served.2).map Prod.fst

/-- The attempts are made one after another by a clock that never goes back. -/
def NonDecreasing : Prop :=
  (attempts.map Attempt.now).Pairwise (· ≤ ·)

/-- No two attempts draw the same suffix. -/
def Distinct : Prop :=
  (attempts.map Attempt.random).Nodup

/-- All attempts on the key have the same limit and window. -/
def Fixed (key : String) (max windowSec : Int) : Prop :=
  ∀ attempt ∈ attempts, attempt.key = key →
    attempt.max = max ∧ attempt.windowSec = windowSec

instance : Decidable (NonDecreasing attempts) :=
  inferInstanceAs (Decidable (List.Pairwise _ _))

instance : Decidable (Distinct attempts) :=
  inferInstanceAs (Decidable (List.Nodup _))

instance (key : String) (max windowSec : Int) :
    Decidable (Fixed attempts key max windowSec) :=
  inferInstanceAs (Decidable (∀ _ ∈ attempts, _))

end Specification

/-! ## Members -/

theorem colon_not_mem_toString (now : Time) : ':' ∉ (toString now).toList := by
  have digits (n : Nat) : ':' ∉ Nat.toDigits 10 n := fun member =>
    absurd (Nat.isDigit_of_mem_toDigits (by decide) (by decide) member)
      (by decide)
  rw [Int.toString_eq_repr, Int.repr_eq_if]
  split_ifs
  · rw [Nat.toList_repr]
    exact digits _
  · rw [String.toList_append, Nat.toList_repr]
    simp [digits]

/-- What follows the first occurrence of a separator. -/
theorem eq_of_append_separator {Element : Type*} {separator : Element}
    {first second rest other : List Element}
    (notFirst : separator ∉ first) (notSecond : separator ∉ second)
    (same : first ++ separator :: rest = second ++ separator :: other) :
    rest = other := by
  induction first generalizing second with
  | nil =>
      cases second with
      | nil => exact (List.cons.inj same).2
      | cons head tail =>
          cases (List.cons.inj same).1
          exact absurd (.head _) notSecond
  | cons head tail induction =>
      cases second with
      | nil =>
          cases (List.cons.inj same).1
          exact absurd (.head _) notFirst
      | cons otherHead otherTail =>
          exact induction (fun member => notFirst (.tail _ member))
            (fun member => notSecond (.tail _ member)) (List.cons.inj same).2

theorem random_eq_of_member_eq {attempt other : Attempt}
    (same : attempt.member = other.member) : attempt.random = other.random := by
  have split : (toString attempt.now).toList ++ ':' :: attempt.random.toList =
      (toString other.now).toList ++ ':' :: other.random.toList := by
    simpa [Attempt.member, RedisRateLimiter.member, String.toList_append]
      using congrArg String.toList same
  exact String.toList_inj.mp (eq_of_append_separator
    (colon_not_mem_toString _) (colon_not_mem_toString _) split)

/-! ## What is remembered -/

/-- The entries of the attempts on the key after a time. -/
def entriesAfter (attempts : List Attempt) (key : String) (time : Time) :
    List (String × Time) :=
  (attempts.filter fun attempt =>
    attempt.key = key ∧ time < attempt.now).map
      fun attempt => (attempt.member, attempt.now)

/--
At every time after the attempts, the ranking of the key holds every attempt of
the window that ends then, and no other entry of that window.
-/
def Remembers (key : String) (windowMs : Time) (attempts : List Attempt)
    (redis : RedisRankings) : Prop :=
  ∀ now, (∀ attempt ∈ attempts, attempt.now ≤ now) →
    (redis.contents now (redisKey key)).filter
        (fun entry => decide (now - windowMs < entry.2)) =
      entriesAfter attempts key (now - windowMs)

section Remembering

variable {attempts : List Attempt} {attempt : Attempt} {key : String}
  {windowMs time later : Time} {redis : RedisRankings}

theorem entriesAfter_concat_of_ne (elsewhere : attempt.key ≠ key) :
    entriesAfter (attempts ++ [attempt]) key time =
      entriesAfter attempts key time := by
  simp [entriesAfter, List.filter_append, elsewhere]

theorem entriesAfter_concat (within : time < attempt.now) :
    entriesAfter (attempts ++ [attempt]) attempt.key time =
      entriesAfter attempts attempt.key time ++
        [(attempt.member, attempt.now)] := by
  simp [entriesAfter, List.filter_append, within]

/-- Of the entries after a time, those after a later one. -/
theorem filter_entriesAfter (passed : time ≤ later) :
    (entriesAfter attempts key time).filter
        (fun entry => decide (later < entry.2)) =
      entriesAfter attempts key later := by
  unfold entriesAfter
  rw [List.filter_map, List.filter_filter]
  congr 1
  apply List.filter_congr
  intro attempt _
  simp only [Function.comp_apply, Bool.decide_and]
  by_cases after : later < attempt.now
  · simp [after, lt_of_le_of_lt passed after]
  · simp [after]

/-- There is nothing after a time that no attempt has passed. -/
theorem entriesAfter_eq_nil
    (before : ∀ attempt ∈ attempts, attempt.now ≤ time) :
    entriesAfter attempts key time = [] := by
  unfold entriesAfter
  rw [List.map_eq_nil_iff, List.filter_eq_nil_iff]
  intro attempt member
  simp [not_lt.mpr (before attempt member)]

/-- After two windows an attempt is outside of the window that ends then. -/
theorem outside_of_expired {time now windowMs : Int} (positive : 0 < windowMs)
    (expired : time + windowMs * 2 ≤ now) : time ≤ now - windowMs := by
  omega

theorem remembers_empty : Remembers key windowMs [] .empty :=
  fun _ _ => rfl

/-- An attempt whose suffix is new finds itself under a new member. -/
theorem Remembers.absent
    (remembers : Remembers attempt.key attempt.windowMs attempts redis)
    (ordered : ∀ other ∈ attempts, other.now ≤ attempt.now)
    (new : ∀ other ∈ attempts, other.random ≠ attempt.random) :
    attempt.member ∉ (pruned redis attempt).map Prod.fst := by
  rw [pruned, remembers attempt.now ordered]
  intro member
  rcases List.mem_map.mp member with ⟨entry, stored, same⟩
  rcases List.mem_map.mp stored with ⟨other, kept, rfl⟩
  exact new other (List.mem_filter.mp kept).1 (random_eq_of_member_eq same)

/-- An attempt on the key keeps what is remembered, and is remembered. -/
theorem Remembers.next
    (remembers : Remembers attempt.key attempt.windowMs attempts redis)
    (positive : 0 < attempt.windowMs)
    (ordered : ∀ other ∈ attempts, other.now ≤ attempt.now)
    (new : ∀ other ∈ attempts, other.random ≠ attempt.random) :
    Remembers attempt.key attempt.windowMs (attempts ++ [attempt])
      (recorded redis attempt) := by
  intro now passed
  have passedAll : ∀ other ∈ attempts, other.now ≤ now :=
    fun other member => passed other (List.mem_append_left _ member)
  have passedLast : attempt.now ≤ now := passed attempt (by simp)
  have start : attempt.now - attempt.windowMs < attempt.now :=
    Int.sub_lt_self _ positive
  rw [contents_recorded (remembers.absent ordered new) passedLast, pruned,
    remembers attempt.now ordered, ← entriesAfter_concat start]
  split_ifs with early
  · exact filter_entriesAfter (Int.sub_le_sub_right passedLast _)
  · -- two windows later the last attempt is outside of the window as well
    rw [entriesAfter_eq_nil]
    · rfl
    intro other member
    have before : other.now ≤ attempt.now := by
      rcases List.mem_append.mp member with old | last
      · exact ordered other old
      · rw [List.mem_singleton.mp last]
    exact before.trans (outside_of_expired positive (not_lt.mp early))

/-- An attempt on another key keeps what is remembered. -/
theorem Remembers.other
    (remembers : Remembers key windowMs attempts redis)
    (elsewhere : attempt.key ≠ key) :
    Remembers key windowMs (attempts ++ [attempt])
      (recorded redis attempt) := by
  intro now passed
  rw [contents_recorded_of_ne elsewhere.symm, entriesAfter_concat_of_ne
    elsewhere]
  exact remembers now fun other member =>
    passed other (List.mem_append_left _ member)

/-- The attempts of a window are those after its start. -/
theorem length_entriesAfter
    (passed : ∀ attempt ∈ attempts, attempt.now ≤ later) :
    (entriesAfter attempts key (later - windowMs)).length =
      attemptsWithin attempts key windowMs later := by
  unfold entriesAfter attemptsWithin
  rw [List.length_map, List.countP_eq_length_filter]
  congr 1
  apply List.filter_congr
  intro attempt member
  simp [passed attempt member]

/-- An attempt finds exactly the attempts of its window. -/
theorem Remembers.zcard
    (remembers : Remembers attempt.key attempt.windowMs attempts redis)
    (positive : 0 < attempt.windowMs)
    (ordered : ∀ other ∈ attempts, other.now ≤ attempt.now)
    (new : ∀ other ∈ attempts, other.random ≠ attempt.random) :
    (recorded redis attempt).zcard attempt.now (redisKey attempt.key) =
      attemptsWithin (attempts ++ [attempt]) attempt.key attempt.windowMs
        attempt.now := by
  have start : attempt.now - attempt.windowMs < attempt.now :=
    Int.sub_lt_self _ positive
  have inTime : attempt.now < attempt.now + attempt.windowMs * 2 :=
    Int.lt_add_of_pos_right _ (Int.mul_pos positive (by decide))
  unfold ExpiringRankings.zcard
  rw [contents_recorded (remembers.absent ordered new) le_rfl, if_pos inTime,
    pruned, remembers attempt.now ordered, ← entriesAfter_concat start]
  apply length_entriesAfter
  intro other member
  rcases List.mem_append.mp member with old | last
  · exact ordered other old
  · rw [List.mem_singleton.mp last]

end Remembering

/-! ## Runs -/

section Runs

variable {attempts before : List Attempt} {attempt : Attempt} {key : String}
  {max windowSec : Int}

theorem NonDecreasing.last
    (ordered : NonDecreasing (attempts ++ [attempt])) :
    NonDecreasing attempts ∧ ∀ other ∈ attempts, other.now ≤ attempt.now := by
  unfold NonDecreasing at ordered
  rw [List.map_append, List.map_singleton, List.pairwise_append] at ordered
  refine ⟨ordered.1, fun other member => ?_⟩
  exact ordered.2.2 _ (List.mem_map_of_mem member) _ (List.mem_singleton_self _)

theorem Distinct.last (distinct : Distinct (attempts ++ [attempt])) :
    Distinct attempts ∧ ∀ other ∈ attempts, other.random ≠ attempt.random := by
  unfold Distinct at distinct
  rw [List.map_append, List.map_singleton, List.nodup_append] at distinct
  refine ⟨distinct.1, fun other member => ?_⟩
  exact distinct.2.2 _ (List.mem_map_of_mem member) _
    (List.mem_singleton_self _)

/-- In every run the ranking of a key remembers the attempts of its window. -/
theorem remembers_reach (positive : 1 ≤ windowSec)
    (ordered : NonDecreasing attempts) (distinct : Distinct attempts)
    (fixed : Fixed attempts key max windowSec) :
    Remembers key (windowSec * 1000) attempts
      (limiter.reach .empty attempts) := by
  induction attempts using List.reverseRecOn with
  | nil => exact remembers_empty
  | append_singleton attempts attempt induction =>
      rcases ordered.last with ⟨orderedBefore, orderedLast⟩
      rcases distinct.last with ⟨distinctBefore, distinctLast⟩
      have remembers := induction orderedBefore distinctBefore
        fun other member => fixed other (List.mem_append_left _ member)
      rw [Machine.reach_concat, limiter_step]
      by_cases same : attempt.key = key
      · rcases fixed attempt (by simp) same with ⟨-, sameWindow⟩
        subst same sameWindow
        exact remembers.next (Int.mul_pos positive (by decide)) orderedLast
          distinctLast
      · exact remembers.other same

theorem verdict_eq (count : Nat) :
    verdict attempt count =
      { allowed := (count : Int) ≤ attempt.max
        remaining :=
          if (count : Int) ≤ attempt.max then attempt.max - count else 0
        resetAt := resetAt attempt.now attempt.windowMs } := by
  unfold verdict
  by_cases exceeds : (count : Int) > attempt.max
  · rw [if_pos exceeds]
    simp [not_le.mpr exceeds]
  · rw [if_neg exceeds]
    simp [not_lt.mp exceeds]

/-- The last attempt on a key is told what the reference says. -/
theorem step_eq_reference (positive : 1 ≤ windowSec)
    (ordered : NonDecreasing (attempts ++ [attempt]))
    (distinct : Distinct (attempts ++ [attempt]))
    (fixed : Fixed (attempts ++ [attempt]) attempt.key max windowSec) :
    (limiter.step (limiter.reach .empty attempts) attempt).1 =
      .ok (reference attempts attempt) := by
  rcases ordered.last with ⟨orderedBefore, orderedLast⟩
  rcases distinct.last with ⟨distinctBefore, distinctLast⟩
  rcases fixed attempt (by simp) rfl with ⟨-, rfl⟩
  have remembers := remembers_reach positive orderedBefore distinctBefore
    fun other member => fixed other (List.mem_append_left _ member)
  rw [limiter_step, remembers.zcard (Int.mul_pos positive (by decide))
    orderedLast distinctLast, verdict_eq]
  rfl

/-! ### The attempts that are allowed -/

theorem granted_concat :
    granted (attempts ++ [attempt]) =
      granted attempts ++
        if Allows (limiter.step (limiter.reach .empty attempts) attempt).1 then
          [attempt]
        else [] := by
  unfold granted
  rw [Machine.answers_concat, List.zip_append
    (Machine.length_answers limiter _ attempts).symm, List.filter_append,
    List.map_append]
  congr 1
  simp only [List.zip_cons_cons, List.zip_nil_right, List.filter_cons,
    List.filter_nil]
  split_ifs <;> rfl

theorem granted_sublist : (granted attempts).Sublist attempts := by
  induction attempts using List.reverseRecOn with
  | nil => exact List.Sublist.refl _
  | append_singleton attempts attempt induction =>
      rw [granted_concat]
      apply induction.append
      split_ifs
      · exact List.Sublist.refl _
      · exact List.nil_sublist _

/--
Among attempts that are less than a window apart, at most the limit is allowed.
-/
theorem countP_granted_le (positive : 1 ≤ windowSec)
    (ordered : NonDecreasing attempts) (distinct : Distinct attempts)
    (fixed : Fixed attempts key max windowSec)
    (inside : Time → Prop) [DecidablePred inside]
    (narrow : ∀ time later, inside time → inside later →
      later - windowSec * 1000 < time) :
    (((granted attempts).countP fun attempt =>
        attempt.key = key ∧ inside attempt.now : Nat) : Int) ≤
      Max.max 0 max := by
  induction attempts using List.reverseRecOn with
  | nil => exact le_max_left _ _
  | append_singleton attempts attempt induction =>
      have bound := induction ordered.last.1 distinct.last.1
        fun other member => fixed other (List.mem_append_left _ member)
      rw [granted_concat]
      by_cases counts : attempt.key = key ∧ inside attempt.now
      · rcases counts with ⟨rfl, insideNow⟩
        rcases fixed attempt (by simp) rfl with ⟨rfl, rfl⟩
        rw [step_eq_reference positive ordered distinct fixed]
        split_ifs with allowed
        · -- all that counts is in the window that ends with the attempt
          have within := of_decide_eq_true allowed
          refine le_trans ?_ (within.trans (le_max_right _ _))
          apply Int.ofNat_le.mpr
          refine le_trans (List.Sublist.countP_le
            (granted_sublist.append (List.Sublist.refl [attempt]))) ?_
          apply List.countP_mono_left
          intro other member holds
          simp only [decide_eq_true_eq] at holds ⊢
          refine ⟨holds.1, narrow _ _ holds.2 insideNow, ?_⟩
          rcases List.mem_append.mp member with old | last
          · exact ordered.last.2 other old
          · rw [List.mem_singleton.mp last]
        · rw [List.append_nil]
          exact bound
      · rw [List.countP_append]
        have none : List.countP (fun other : Attempt =>
            decide (other.key = key ∧ inside other.now))
            (if Allows (limiter.step (limiter.reach .empty attempts)
              attempt).1 then [attempt] else []) = 0 := by
          split_ifs
          · simpa using counts
          · rfl
        rw [none]
        exact bound

end Runs

/--
A sliding window.  Every attempt on a key is allowed exactly if at most the
limit of attempts on the key, itself included, lie in the window that ends with
it, and is told how many remain; so at most the limit is allowed in every
half-open interval of the length of a window.
-/
theorem sliding_window {attempts : List Attempt} {key : String}
    {max windowSec : Int} (positive : 1 ≤ windowSec)
    (ordered : NonDecreasing attempts) (distinct : Distinct attempts)
    (fixed : Fixed attempts key max windowSec) :
    (∀ before attempt after, attempts = before ++ attempt :: after →
        attempt.key = key →
          (limiter.step (limiter.reach .empty before) attempt).1 =
            .ok (reference before attempt)) ∧
      ∀ start : Time,
        (((granted attempts).countP fun attempt => attempt.key = key ∧
            start ≤ attempt.now ∧ attempt.now < start + windowSec * 1000 :
              Nat) : Int) ≤ Max.max 0 max ∧
          (((granted attempts).countP fun attempt => attempt.key = key ∧
            start < attempt.now ∧ attempt.now ≤ start + windowSec * 1000 :
              Nat) : Int) ≤ Max.max 0 max := by
  constructor
  · rintro before attempt after rfl rfl
    have upTo : before ++ attempt :: after =
        (before ++ [attempt]) ++ after := by simp
    rw [upTo] at ordered distinct fixed
    unfold NonDecreasing at ordered
    unfold Distinct at distinct
    rw [List.map_append] at ordered distinct
    have fixedUpTo : Fixed (before ++ [attempt]) attempt.key max windowSec :=
      fun other member => fixed other (List.mem_append_left _ member)
    exact step_eq_reference positive (List.pairwise_append.mp ordered).1
      (List.nodup_append.mp distinct).1 fixedUpTo
  · intro start
    constructor
    · apply countP_granted_le positive ordered distinct fixed
        fun time => start ≤ time ∧ time < start + windowSec * 1000
      rintro time later ⟨early, -⟩ ⟨-, late⟩
      exact lt_of_lt_of_le (Int.sub_right_lt_of_lt_add late) early
    · apply countP_granted_le positive ordered distinct fixed
        fun time => start < time ∧ time ≤ start + windowSec * 1000
      rintro time later ⟨early, -⟩ ⟨-, late⟩
      exact lt_of_le_of_lt (Int.sub_right_le_of_le_add late) early

/-- An attempt to log in; two of them are allowed in a minute. -/
def loginAttempt (now : Time) (random : String) : Attempt where
  key := "login:1.2.3.4"
  max := 2
  windowSec := 60
  now := now
  random := random

/-- The third attempt of a minute; the fourth finds that all has expired. -/
def loginAttempts : List Attempt :=
  [loginAttempt 0 "0.25", loginAttempt 59999 "0.5", loginAttempt 59999 "0.75",
    loginAttempt 179999 "0.125"]

theorem sliding_window_loginAttempts :
    (limiter.step
        (limiter.reach .empty [loginAttempt 0 "0.25", loginAttempt 59999 "0.5"])
        (loginAttempt 59999 "0.75")).1 =
      .ok { allowed := false, remaining := 0, resetAt := 120 } := by
  have window :=
    @sliding_window loginAttempts "login:1.2.3.4" 2 60 (by decide) (by decide)
      (by decide) (by decide)
  exact window.1 [loginAttempt 0 "0.25", loginAttempt 59999 "0.5"]
    (loginAttempt 59999 "0.75") [loginAttempt 179999 "0.125"] rfl rfl

end ChatBackend.Http.SlidingWindow
