import ChatBackend.Collections.Ordered
import Mathlib.Logic.Function.Iterate

/-!
# A counted resource and its holders

A resource is kept while somebody holds it.  Next to the set of holders stands
a counter, absent while the resource is; the counter alone decides when the
resource is given up.  The operations trust their callers: `acquire` counts a
holder that is one already, and `release` counts down for a caller that holds
nothing.  The rules say exactly when the counter stays the number of holders.
-/

namespace Collections

/-- A set of holders and the counter that is kept for them. -/
structure Shared (Holder : Type*) where
  holders : OrderedSet Holder
  counter : Option Int

/-! ## Counters -/

/-- The counter for so many holders. -/
def tally : Nat → Option Int
  | 0 => none
  | number + 1 => some (number + 1)

/-- One more; an absent counter starts at one. -/
def countUp : Option Int → Option Int
  | none => some 1
  | some count => some (count + 1)

/-- One less; a counter that leaves the positive numbers is given up. -/
def countDown : Option Int → Option Int
  | none => none
  | some count => if count - 1 ≤ 0 then none else some (count - 1)

theorem tally_eq_none_iff {number : Nat} : tally number = none ↔ number = 0 := by
  cases number <;> simp [tally]

theorem tally_injective : Function.Injective tally := by
  intro left right same
  cases left <;> cases right <;> simp [tally] at same ⊢
  omega

@[simp]
theorem countUp_tally (number : Nat) :
    countUp (tally number) = tally (number + 1) := by
  cases number with
  | zero => rfl
  | succ number =>
      simp only [tally, countUp, Option.some.injEq]
      push_cast
      rfl

@[simp]
theorem countDown_tally (number : Nat) :
    countDown (tally number) = tally (number - 1) := by
  cases number with
  | zero => rfl
  | succ number =>
      cases number with
      | zero => rfl
      | succ number =>
          simp only [tally, countDown, Nat.add_sub_cancel]
          rw [if_neg (by push_cast; omega)]
          push_cast
          rw [Int.add_sub_cancel]

theorem countDown_iterate_tally (number times : Nat) :
    countDown^[times] (tally number) = tally (number - times) := by
  induction times generalizing number with
  | zero => rfl
  | succ times induction =>
      rw [Function.iterate_succ_apply, countDown_tally, induction,
        Nat.sub_sub, Nat.add_comm 1]

theorem countDown_some (count : Int) :
    countDown (some count) =
      if count - 1 ≤ 0 then none else some (count - 1) := rfl

theorem countDown_iterate_none (times : Nat) :
    countDown^[times] none = none := by
  induction times with
  | zero => rfl
  | succ times induction => exact induction

/-- A positive counter is given up once it has been counted down so often. -/
theorem countDown_iterate_eq_none_iff {count : Int} (positive : 0 < count)
    (times : Nat) :
    countDown^[times] (some count) = none ↔ count ≤ times := by
  induction times generalizing count with
  | zero => simpa using positive
  | succ times induction =>
      rw [Function.iterate_succ_apply, countDown_some]
      by_cases last : count - 1 ≤ 0
      · rw [if_pos last]
        refine iff_of_true (countDown_iterate_none times) ?_
        omega
      · rw [if_neg last]
        have fewer : 0 < count - 1 := by omega
        rw [induction fewer]
        omega

/-- Counting down leaves a counter positive. -/
theorem positive_countDown_iterate {counter : Option Int}
    (positive : ∀ count ∈ counter, 0 < count) (times : Nat) :
    ∀ count ∈ countDown^[times] counter, 0 < count := by
  induction times generalizing counter with
  | zero => exact positive
  | succ times induction =>
      rw [Function.iterate_succ_apply]
      apply induction
      intro fewer counted
      cases counter with
      | none => cases counted
      | some count =>
          rw [countDown_some] at counted
          split_ifs at counted
          · cases counted
          · cases counted
            omega

/-! ## Holders -/

namespace Shared

variable {Holder : Type*} [DecidableEq Holder]

/-- The counter is the number of holders. -/
def Exact (shared : Shared Holder) : Prop :=
  shared.counter = tally shared.holders.size

def acquire (holder : Holder) (shared : Shared Holder) : Shared Holder where
  holders := shared.holders.add holder
  counter := countUp shared.counter

def release (holder : Holder) (shared : Shared Holder) : Shared Holder where
  holders := shared.holders.delete holder
  counter := countDown shared.counter

theorem size_eq_delete_add (set : OrderedSet Holder) (holder : Holder) :
    set.size = (set.delete holder).size + if holder ∈ set then 1 else 0 := by
  split_ifs with member
  · rw [OrderedSet.size_delete_of_mem member]
    have positive : set.size ≠ 0 := by
      rw [Ne, OrderedSet.size_eq_zero_iff]
      rintro rfl
      exact OrderedSet.not_mem_empty holder member
    omega
  · rw [OrderedSet.delete_of_not_mem member, Nat.add_zero]

theorem size_delete_eq_zero_iff {set : OrderedSet Holder} {holder : Holder} :
    (set.delete holder).size = 0 ↔ ∀ other ∈ set, other = holder := by
  rw [OrderedSet.size_eq_zero_iff, OrderedSet.eq_empty_iff]
  constructor
  · intro empty other member
    by_contra different
    exact empty other (OrderedSet.mem_delete.mpr ⟨different, member⟩)
  · intro only other member
    rcases OrderedSet.mem_delete.mp member with ⟨different, stored⟩
    exact different (only other stored)

omit [DecidableEq Holder] in
theorem Exact.counter_eq_none_iff {shared : Shared Holder}
    (exact_ : shared.Exact) :
    shared.counter = none ↔ shared.holders.size = 0 := by
  rw [exact_, tally_eq_none_iff]

theorem Exact.acquire {shared : Shared Holder} (exact_ : shared.Exact)
    {holder : Holder} (absent : holder ∉ shared.holders) :
    (shared.acquire holder).Exact := by
  unfold Exact Shared.acquire
  rw [exact_, countUp_tally, OrderedSet.size_add_of_not_mem absent]

theorem release_iterate_succ (shared : Shared Holder) (holder : Holder)
    (times : Nat) :
    (release holder)^[times + 1] shared =
      { holders := shared.holders.delete holder
        counter := countDown^[times + 1] shared.counter } := by
  induction times with
  | zero => rfl
  | succ times induction =>
      have gone : holder ∉ shared.holders.delete holder := by simp
      rw [Function.iterate_succ_apply', induction,
        Function.iterate_succ_apply' countDown (times + 1)]
      unfold release
      rw [OrderedSet.delete_of_not_mem gone]

/--
Releasing some times over keeps the counter the number of holders exactly when
the caller is a holder and releases once, or nobody else holds the resource.
-/
theorem exact_release_iterate_iff {shared : Shared Holder}
    (exact_ : shared.Exact) (holder : Holder) (times : Nat) :
    ((release holder)^[times] shared).Exact ↔
      times = 0 ∨ (holder ∈ shared.holders ∧ times = 1) ∨
        ∀ other ∈ shared.holders, other = holder := by
  cases times with
  | zero => simpa using exact_
  | succ times =>
      rw [release_iterate_succ]
      unfold Exact
      rw [exact_, countDown_iterate_tally, tally_injective.eq_iff,
        ← size_delete_eq_zero_iff, size_eq_delete_add shared.holders holder]
      by_cases member : holder ∈ shared.holders
      · simp only [member, if_true, true_and]
        omega
      · simp only [member, if_false, false_and, false_or]
        omega

theorem positive_release_iterate {shared : Shared Holder}
    (positive : ∀ count ∈ shared.counter, 0 < count) (holder : Holder)
    (times : Nat) :
    ∀ count ∈ ((release holder)^[times] shared).counter, 0 < count := by
  cases times with
  | zero => exact positive
  | succ times =>
      rw [release_iterate_succ]
      exact positive_countDown_iterate positive (times + 1)

/-- The resource is there while somebody holds it. -/
structure Held (shared : Shared Holder) : Prop where
  counted : ∀ holder ∈ shared.holders, shared.counter ≠ none
  positive : ∀ count ∈ shared.counter, 0 < count

theorem Held.acquire {shared : Shared Holder} (held : shared.Held)
    (holder : Holder) : (shared.acquire holder).Held where
  counted _ _ := by
    unfold Shared.acquire countUp
    split <;> simp
  positive := by
    intro count counted
    have positive := held.positive
    unfold Shared.acquire countUp at counted
    dsimp only at counted
    split at counted
    · cases counted
      exact Int.one_pos
    · rename_i before found
      cases counted
      have more := positive before found
      omega

/--
Releasing some times over keeps the resource for those who are left exactly
when nobody else holds it or the counter is higher than that.
-/
theorem held_release_iterate_iff {shared : Shared Holder}
    (held : shared.Held) (holder : Holder) (times : Nat) :
    ((release holder)^[times] shared).Held ↔
      times = 0 ∨ (∀ other ∈ shared.holders, other = holder) ∨
        ∃ count ∈ shared.counter, times < count := by
  cases times with
  | zero => exact iff_of_true held (.inl rfl)
  | succ times =>
      rw [release_iterate_succ]
      have positive := positive_countDown_iterate held.positive (times + 1)
      constructor
      · intro after
        by_cases only : ∀ other ∈ shared.holders, other = holder
        · exact .inr (.inl only)
        · push Not at only
          rcases only with ⟨other, holds, different⟩
          have left := after.counted other
            (OrderedSet.mem_delete.mpr ⟨different, holds⟩)
          cases counter : shared.counter with
          | none => exact absurd counter (held.counted other holds)
          | some count =>
              rw [counter, Ne, countDown_iterate_eq_none_iff
                (held.positive count counter)] at left
              exact .inr (.inr ⟨count, rfl, Int.not_le.mp left⟩)
      · rintro (impossible | only | ⟨count, counter, more⟩)
        · exact absurd impossible (Nat.succ_ne_zero times)
        · refine ⟨fun other holds => ?_, positive⟩
          rcases OrderedSet.mem_delete.mp holds with ⟨different, stored⟩
          exact absurd (only other stored) different
        · refine ⟨fun _ _ => ?_, positive⟩
          rw [Option.mem_def] at counter
          rw [counter, Ne, countDown_iterate_eq_none_iff
            (held.positive count counter)]
          exact Int.not_le.mpr more

end Shared

end Collections
