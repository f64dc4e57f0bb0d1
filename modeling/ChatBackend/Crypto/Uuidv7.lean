import Mathlib.Data.String.Basic
import ChatBackend.Domain
import ChatBackend.Collections.Lexicographic

/-!
# Generated ids

An id is sixteen bytes in hexadecimal: the milliseconds of the clock in the
first six, then random bytes of which six bits are fixed.

Ids are ordered by the milliseconds, as far as 48 bits hold them, and ids of one
millisecond by the random bits.
-/

namespace ChatBackend.Crypto.Uuidv7

open Collections

/-! ## The generator -/

/-- `DataView.setUint16` and `setUint32`, which keep the low bits. -/
def setUint (width : Nat) (value : Int) : List UInt8 :=
  bigEndian width (value % 256 ^ width).toNat

/-- The bytes, with the timestamp, the version and the variant set. -/
def bytes (now : Time) (random : Fin 16 → UInt8) : List UInt8 :=
  setUint 4 (now / 0x10000) ++
    (setUint 2 (now % 0x10000) ++
      [(random 6 &&& 0x0f) ||| 0x70, random 7,
        (random 8 &&& 0x3f) ||| 0x80, random 9, random 10, random 11,
        random 12, random 13, random 14, random 15])

/-- `b.toString(16).padStart(2, "0")` -/
def hexByte (byte : UInt8) : List Char :=
  [Nat.digitChar (byte.toNat / 16), Nat.digitChar (byte.toNat % 16)]

/-- The id that the generator makes of the clock and the random bytes. -/
def uuidv7 (now : Time) (random : Fin 16 → UInt8) : String :=
  String.ofList
    (separate '-' [8, 4, 4, 4] ((bytes now random).flatMap hexByte))

/-! ## What an id is made of -/

/-- The milliseconds, as far as the 48 bits of an id hold them. -/
def stamp (now : Time) : Int := now % 0x1000000000000

/-- The random bits that an id holds. -/
def payload (random : Fin 16 → UInt8) : List UInt8 :=
  [random 6 &&& 0x0f, random 7, random 8 &&& 0x3f, random 9, random 10,
    random 11, random 12, random 13, random 14, random 15]

/-- The second draw makes the greater id. -/
def InOrder (now later : Time) (random other : Fin 16 → UInt8) : Prop :=
  stamp now < stamp later ∨
    stamp now = stamp later ∧ payload random < payload other

instance (now later : Time) (random other : Fin 16 → UInt8) :
    Decidable (InOrder now later random other) :=
  inferInstanceAs (Decidable (_ ∨ _))

section Order

variable {now later : Time} {random other : Fin 16 → UInt8}

theorem length_bytes (now : Time) (random : Fin 16 → UInt8) :
    (bytes now random).length = 16 := by
  simp [bytes, setUint]

theorem digitChar_lt_iff {left right : Nat} (small : left < 16)
    (otherSmall : right < 16) :
    Nat.digitChar left < Nat.digitChar right ↔ left < right := by
  have all : ∀ left right : Fin 16,
      Nat.digitChar left < Nat.digitChar right ↔ left < right := by
    decide
  exact all ⟨left, small⟩ ⟨right, otherSmall⟩

theorem digitChar_inj {left right : Nat} (small : left < 16)
    (otherSmall : right < 16) :
    Nat.digitChar left = Nat.digitChar right ↔ left = right := by
  have all : ∀ left right : Fin 16,
      Nat.digitChar left = Nat.digitChar right → left = right := by
    decide
  refine ⟨fun same => ?_, congrArg _⟩
  exact congrArg Fin.val (all ⟨left, small⟩ ⟨right, otherSmall⟩ same)

theorem hexByte_ordered : OrderedCode hexByte 2 where
  length byte := rfl
  injective := by
    intro left right same
    have leftSmall := left.toNat_lt
    have rightSmall := right.toNat_lt
    simp only [hexByte, List.cons.injEq, and_true] at same
    rw [digitChar_inj (by omega) (by omega), digitChar_inj (by omega) (by omega)]
      at same
    exact UInt8.toNat_inj.mp (by omega)
  lt_iff left right := by
    have leftSmall := left.toNat_lt
    have rightSmall := right.toNat_lt
    simp only [hexByte, List.cons_lt_cons_iff, List.not_lt_nil, and_false,
      or_false]
    rw [digitChar_lt_iff (by omega) (by omega),
      digitChar_lt_iff (by omega) (by omega),
      digitChar_inj (by omega) (by omega), UInt8.lt_iff_toNat_lt]
    omega

/-- A property of a byte, checked for all bytes. -/
theorem forall_byte {property : UInt8 → Prop}
    (all : ∀ value : Fin 256, property (UInt8.ofNat value)) (byte : UInt8) :
    property byte := by
  have same : UInt8.ofNat byte.toNat = byte := UInt8.ofNat_toNat
  exact same ▸ all ⟨byte.toNat, byte.toNat_lt⟩

/-- The bits of the version are above those that stay random. -/
theorem toNat_version (byte : UInt8) :
    ((byte &&& 0x0f) ||| 0x70).toNat = (byte &&& 0x0f).toNat + 0x70 := by
  revert byte
  exact forall_byte (by decide +kernel)

/-- The bits of the variant are above those that stay random. -/
theorem toNat_variant (byte : UInt8) :
    ((byte &&& 0x3f) ||| 0x80).toNat = (byte &&& 0x3f).toNat + 0x80 := by
  revert byte
  exact forall_byte (by decide +kernel)

/-- The fixed bits do not change the order. -/
theorem fixed_lt_iff {rest otherRest : List UInt8} {a b c d e f : UInt8} :
    ((a &&& 0x0f) ||| 0x70) :: b :: ((c &&& 0x3f) ||| 0x80) :: rest <
        ((d &&& 0x0f) ||| 0x70) :: e :: ((f &&& 0x3f) ||| 0x80) :: otherRest ↔
      (a &&& 0x0f) :: b :: (c &&& 0x3f) :: rest <
        (d &&& 0x0f) :: e :: (f &&& 0x3f) :: otherRest := by
  simp only [List.cons_lt_cons_iff, UInt8.lt_iff_toNat_lt, ← UInt8.toNat_inj,
    toNat_version, toNat_variant, Nat.add_lt_add_iff_right,
    Nat.add_right_cancel_iff]

/-- What is stored of a value is in range, so it is told apart. -/
theorem setUint_iff (width : Nat) (left right : Int) :
    (setUint width left < setUint width right ↔
        left % 256 ^ width < right % 256 ^ width) ∧
      (setUint width left = setUint width right ↔
        left % 256 ^ width = right % 256 ^ width) := by
  have range (value : Int) : ∃ stored : Nat, value % 256 ^ width = stored ∧
      stored < 256 ^ width := by
    have positive : (0 : Int) < 256 ^ width := Int.pow_pos (by decide)
    obtain ⟨stored, same⟩ :=
      Int.eq_ofNat_of_zero_le (Int.emod_nonneg value positive.ne')
    have below := Int.emod_lt_of_pos value positive
    rw [same] at below
    exact ⟨stored, same, by exact_mod_cast below⟩
  obtain ⟨first, sameFirst, firstSmall⟩ := range left
  obtain ⟨second, sameSecond, secondSmall⟩ := range right
  unfold setUint
  rw [sameFirst, sameSecond, Int.toNat_natCast, Int.toNat_natCast,
    bigEndian_lt_iff, bigEndian_eq_iff, Nat.mod_eq_of_lt firstSmall,
    Nat.mod_eq_of_lt secondSmall]
  exact ⟨Int.ofNat_lt.symm, Int.ofNat_inj.symm⟩

theorem bytes_lt_iff :
    bytes now random < bytes later other ↔
      InOrder now later random other := by
  unfold bytes
  rw [append_lt_append_iff (by simp [setUint]),
    append_lt_append_iff (by simp [setUint]), fixed_lt_iff]
  rw [(setUint_iff ..).1, (setUint_iff ..).1, (setUint_iff ..).2,
    (setUint_iff ..).2]
  unfold InOrder stamp
  change _ ∨ _ ∧ (_ ∨ _ ∧ payload random < payload other) ↔ _
  by_cases less : payload random < payload other
  · simp only [less, and_true]
    omega
  · simp only [less, and_false, or_false]
    omega

/-- The first id is less exactly when the draws are in order. -/
theorem uuidv7_lt_iff :
    uuidv7 now random < uuidv7 later other ↔
      InOrder now later random other := by
  unfold uuidv7
  have same : (bytes now random).length = (bytes later other).length :=
    (length_bytes _ _).trans (length_bytes _ _).symm
  have sameText : ((bytes now random).flatMap hexByte).length =
      ((bytes later other).flatMap hexByte).length := by
    simp [List.length_flatMap, length_bytes, hexByte]
  rw [String.lt_iff_toList_lt, String.toList_ofList, String.toList_ofList,
    separate_lt_iff sameText, hexByte_ordered.flatMap_lt_iff same,
    bytes_lt_iff]

end Order

end ChatBackend.Crypto.Uuidv7
