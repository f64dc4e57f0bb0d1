import Mathlib.Data.UInt
import Mathlib.Tactic.Common
import Mathlib.Tactic.Ring

/-!
# The order of encodings

Lists are ordered lexicographically.  Lists of one length keep their order when
every entry is replaced by a code of a fixed length, when marks are set between
their parts, and when they are appended to lists of one length.  The bytes of a
number, the highest first, are ordered as the number is.
-/

namespace Collections

variable {Entry Code : Type*}

/-! ## Parts -/

/-- Lists that begin with parts of one length are compared part by part. -/
theorem append_lt_append_iff [LT Entry] {left right : List Entry}
    (same : left.length = right.length) {leftRest rightRest : List Entry} :
    left ++ leftRest < right ++ rightRest ↔
      left < right ∨ left = right ∧ leftRest < rightRest := by
  induction left generalizing right with
  | nil =>
      rw [List.length_eq_zero_iff.mp same.symm]
      simp
  | cons head tail induction =>
      cases right with
      | nil => exact absurd same nofun
      | cons other others =>
          rw [List.cons_append, List.cons_append, List.cons_lt_cons_iff,
            List.cons_lt_cons_iff, induction (Nat.succ.inj same),
            List.cons.injEq]
          tauto

/-- Set a mark after each of the parts of a list, but for the last part. -/
def separate (mark : Entry) : List Nat → List Entry → List Entry
  | [], entries => entries
  | size :: sizes, entries =>
      entries.take size ++ mark :: separate mark sizes (entries.drop size)

/-- Marks do not change the order. -/
theorem separate_lt_iff [LT Entry]
    [Std.Irrefl fun left right : Entry => left < right] {mark : Entry}
    {sizes : List Nat} {left right : List Entry}
    (same : left.length = right.length) :
    separate mark sizes left < separate mark sizes right ↔ left < right := by
  induction sizes generalizing left right with
  | nil => exact Iff.rfl
  | cons size sizes induction =>
      have parts : (left.take size).length = (right.take size).length := by
        rw [List.length_take, List.length_take, same]
      have rests : (left.drop size).length = (right.drop size).length := by
        rw [List.length_drop, List.length_drop, same]
      have irreflexive : ¬ mark < mark := Std.Irrefl.irrefl mark
      rw [separate, separate, append_lt_append_iff parts,
        List.cons_lt_cons_iff, induction rests]
      conv_rhs =>
        rw [← List.take_append_drop size left,
          ← List.take_append_drop size right, append_lt_append_iff parts]
      simp [irreflexive]

/-! ## Codes -/

/-- Codes of a fixed length that are ordered as what they stand for. -/
structure OrderedCode [LT Entry] [LT Code] (code : Entry → List Code)
    (size : Nat) : Prop where
  length : ∀ entry, (code entry).length = size
  injective : Function.Injective code
  lt_iff : ∀ left right, code left < code right ↔ left < right

theorem OrderedCode.flatMap_lt_iff [LT Entry] [LT Code]
    {code : Entry → List Code} {size : Nat} (ordered : OrderedCode code size)
    {left right : List Entry} (same : left.length = right.length) :
    left.flatMap code < right.flatMap code ↔ left < right := by
  induction left generalizing right with
  | nil =>
      rw [List.length_eq_zero_iff.mp same.symm]
      simp
  | cons head tail induction =>
      cases right with
      | nil => exact absurd same nofun
      | cons other others =>
          have codes : (code head).length = (code other).length :=
            (ordered.length head).trans (ordered.length other).symm
          rw [List.flatMap_cons, List.flatMap_cons,
            append_lt_append_iff codes, List.cons_lt_cons_iff,
            ordered.lt_iff, ordered.injective.eq_iff,
            induction (Nat.succ.inj same)]

/-! ## Bytes -/

/-- The bytes of a number, the highest first. -/
def bigEndian : Nat → Nat → List UInt8
  | 0, _ => []
  | width + 1, value =>
      UInt8.ofNat (value / 256 ^ width) :: bigEndian width value

@[simp]
theorem length_bigEndian (width value : Nat) :
    (bigEndian width value).length = width := by
  induction width with
  | zero => rfl
  | succ width induction => simp [bigEndian, induction]

/-- Reading the bytes gives back what is in range. -/
theorem foldl_bigEndian (width value start : Nat) :
    (bigEndian width value).foldl
        (fun read byte => read * 256 + byte.toNat) start =
      start * 256 ^ width + value % 256 ^ width := by
  induction width generalizing start with
  | zero => simp [bigEndian, Nat.mod_one]
  | succ width induction =>
      have split : value % 256 ^ (width + 1) =
          value % 256 ^ width + 256 ^ width * (value / 256 ^ width % 256) :=
        Nat.mod_mul
      have digit : (UInt8.ofNat (value / 256 ^ width)).toNat =
          value / 256 ^ width % 256 := UInt8.toNat_ofNat'
      rw [bigEndian, List.foldl_cons, induction, split, digit]
      generalize value / 256 ^ width % 256 = digit
      ring

/-- Numbers are compared by their quotients and then by their remainders. -/
theorem mul_add_lt_mul_add_iff {base quotient other rest otherRest : Nat}
    (small : rest < base) (otherSmall : otherRest < base) :
    base * quotient + rest < base * other + otherRest ↔
      quotient < other ∨ quotient = other ∧ rest < otherRest := by
  rcases Nat.lt_trichotomy quotient other with less | rfl | more
  · have := Nat.mul_le_mul_left base (Nat.succ_le_of_lt less)
    simp only [less, true_or, iff_true]
    rw [Nat.mul_succ] at this
    omega
  · simp
  · have := Nat.mul_le_mul_left base (Nat.succ_le_of_lt more)
    rw [Nat.mul_succ] at this
    have notLess : ¬ quotient < other := Nat.not_lt.mpr more.le
    have different : quotient ≠ other := more.ne'
    simp only [notLess, different, false_and, or_self, iff_false]
    omega

theorem ofNat_lt_ofNat_iff {left right : Nat} :
    UInt8.ofNat left < UInt8.ofNat right ↔ left % 256 < right % 256 := by
  rw [UInt8.lt_iff_toNat_lt, UInt8.toNat_ofNat', UInt8.toNat_ofNat']

theorem ofNat_eq_ofNat_iff {left right : Nat} :
    UInt8.ofNat left = UInt8.ofNat right ↔ left % 256 = right % 256 := by
  rw [← UInt8.toNat_inj, UInt8.toNat_ofNat', UInt8.toNat_ofNat']

/-- What is in range is told apart by its bytes. -/
theorem bigEndian_eq_iff {width left right : Nat} :
    bigEndian width left = bigEndian width right ↔
      left % 256 ^ width = right % 256 ^ width := by
  induction width with
  | zero => simp [bigEndian, Nat.mod_one]
  | succ width induction =>
      have positive : 0 < 256 ^ width := Nat.pos_of_ne_zero (by simp)
      rw [bigEndian, bigEndian, List.cons.injEq, ofNat_eq_ofNat_iff, induction,
        pow_succ, Nat.mod_mul, Nat.mod_mul]
      refine ⟨fun ⟨high, low⟩ => by rw [high, low], fun same => ?_⟩
      have low := congrArg (fun value => value % 256 ^ width) same
      rw [Nat.add_mul_mod_self_left, Nat.mod_mod, Nat.add_mul_mod_self_left,
        Nat.mod_mod] at low
      rw [low] at same
      exact
        ⟨Nat.eq_of_mul_eq_mul_left positive (Nat.add_left_cancel same), low⟩

/-- The order of the bytes is the order of what is in range. -/
theorem bigEndian_lt_iff {width left right : Nat} :
    bigEndian width left < bigEndian width right ↔
      left % 256 ^ width < right % 256 ^ width := by
  induction width with
  | zero => simp [bigEndian, Nat.mod_one]
  | succ width induction =>
      have positive : 0 < 256 ^ width := Nat.pos_of_ne_zero (by simp)
      rw [bigEndian, bigEndian, List.cons_lt_cons_iff, ofNat_lt_ofNat_iff,
        ofNat_eq_ofNat_iff, induction, pow_succ, Nat.mod_mul, Nat.mod_mul,
        Nat.add_comm, Nat.add_comm (right % 256 ^ width),
        mul_add_lt_mul_add_iff (Nat.mod_lt left positive)
          (Nat.mod_lt right positive)]

end Collections
