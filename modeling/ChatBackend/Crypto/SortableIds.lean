import ChatBackend.Crypto.Uuidv7
import Mathlib.Data.List.OfFn

/-!
# Ids encode their times

The generator overwrites random bytes, in the order in which it is written: it
splits the milliseconds by a division and by a mask of 32 bits with a sign.  The
halves fit together for every time that 48 bits hold, so that an id can be read
back as its time, and ids of different times are ordered as they are.
-/

namespace ChatBackend.Crypto.SortableIds

open Collections
open ChatBackend.Crypto.Uuidv7

/-! ## The generator as it is written -/

/-- `left & right`, of numbers that are taken to 32 bits with a sign. -/
def bitAnd (left right : Int) : Int :=
  (BitVec.ofInt 32 left &&& BitVec.ofInt 32 right).toInt

/-- Overwrite bytes from an offset on. -/
def write (bytes : List UInt8) (offset : Nat) (values : List UInt8) :
    List UInt8 :=
  bytes.take offset ++ (values ++ bytes.drop (offset + values.length))

/-- The random bytes, overwritten one field after another. -/
def writtenBytes (now : Time) (random : Fin 16 → UInt8) : List UInt8 :=
  let bytes := List.ofFn random
  let bytes := write bytes 0 (setUint 4 (now / 0x10000))
  let bytes := write bytes 4 (setUint 2 (bitAnd now 0xffff))
  let bytes := bytes.modify 6 fun byte => (byte &&& 0x0f) ||| 0x70
  bytes.modify 8 fun byte => (byte &&& 0x3f) ||| 0x80

/-- `b.toString(16).padStart(2, "0")` -/
def paddedByte (byte : UInt8) : List Char :=
  (Nat.toDigits 16 byte.toNat).leftpad 2 '0'

/-- `hex.slice(start, end)` -/
def slice (hex : List Char) (start stop : Nat) : List Char :=
  (hex.drop start).take (stop - start)

def writtenUuidv7 (now : Time) (random : Fin 16 → UInt8) : String :=
  let hex := (writtenBytes now random).flatMap paddedByte
  String.ofList
    (slice hex 0 8 ++ '-' :: (slice hex 8 12 ++ '-' :: (slice hex 12 16 ++
      '-' :: (slice hex 16 20 ++ '-' :: hex.drop 20))))

section Written

variable (now : Time) (random : Fin 16 → UInt8)

/-- The sign does not matter to the low bits, nor does what is above them. -/
theorem bitAnd_low (value : Int) :
    bitAnd value 0xffff = value % 0x10000 := by
  have low : (BitVec.ofInt 32 value &&& BitVec.ofInt 32 0xffff).toNat =
      (value % 2 ^ 32).toNat % 2 ^ 16 := by
    rw [BitVec.toNat_and, BitVec.toNat_ofInt]
    exact Nat.and_two_pow_sub_one_eq_mod _ 16
  have small : (value % 2 ^ 32).toNat % 2 ^ 16 < 2 ^ 16 :=
    Nat.mod_lt _ (by decide)
  unfold bitAnd
  rw [BitVec.toInt_eq_toNat_of_lt (by omega), low]
  omega

theorem writtenBytes_eq : writtenBytes now random = bytes now random := by
  unfold writtenBytes bytes
  rw [bitAnd_low]
  rfl

theorem paddedByte_eq (byte : UInt8) : paddedByte byte = hexByte byte := by
  revert byte
  exact forall_byte (by decide +kernel)

/-- The generator makes the id that the model makes at once. -/
theorem writtenUuidv7_eq : writtenUuidv7 now random = uuidv7 now random := by
  unfold writtenUuidv7 uuidv7
  have padded : paddedByte = hexByte := funext paddedByte_eq
  rw [writtenBytes_eq, padded]
  rfl

end Written

/-! ## Reading an id -/

def hexDigits : List Char :=
  "0123456789abcdef".toList

/-- The number that digits denote. -/
def decode (digits : List Char) : Nat :=
  digits.foldl (fun value digit => value * 16 + hexDigits.idxOf digit) 0

/-- An id with hyphens between its digits, of version 7 and its variant. -/
structure Formatted (id : String) (digits : List Char) : Prop where
  length : id.length = 36
  text : id.toList = separate '-' [8, 4, 4, 4] digits
  size : digits.length = 32
  lower : ∀ digit ∈ digits, digit ∈ hexDigits
  version : digits[12]? = some '7'
  variant : ∃ digit ∈ ['8', '9', 'a', 'b'], digits[16]? = some digit

section Reading

variable (now : Time) (random : Fin 16 → UInt8)

theorem idxOf_digitChar {value : Nat} (small : value < 16) :
    hexDigits.idxOf (Nat.digitChar value) = value := by
  have all : ∀ value : Fin 16,
      hexDigits.idxOf (Nat.digitChar value) = value := by
    decide
  exact all ⟨value, small⟩

theorem digitChar_mem {value : Nat} (small : value < 16) :
    Nat.digitChar value ∈ hexDigits := by
  have all : ∀ value : Fin 16, Nat.digitChar value ∈ hexDigits := by
    decide
  exact all ⟨value, small⟩

theorem mem_hexDigits_of_hexByte (byte : UInt8) :
    ∀ digit ∈ hexByte byte, digit ∈ hexDigits := by
  have range := byte.toNat_lt
  unfold hexByte
  simp only [List.forall_mem_cons]
  exact ⟨digitChar_mem (by omega), digitChar_mem (by omega),
    List.forall_mem_nil _⟩

/-- The first digit of a byte with the bits of the version. -/
theorem hexByte_version (byte : UInt8) :
    (hexByte ((byte &&& 0x0f) ||| 0x70))[0]? = some '7' := by
  revert byte
  exact forall_byte (by decide +kernel)

/-- The first digit of a byte with the bits of the variant. -/
theorem hexByte_variant (byte : UInt8) :
    ∃ digit ∈ ['8', '9', 'a', 'b'],
      (hexByte ((byte &&& 0x3f) ||| 0x80))[0]? = some digit := by
  have listed : (hexByte ((byte &&& 0x3f) ||| 0x80))[0]? ∈
      ['8', '9', 'a', 'b'].map some := by
    revert byte
    exact forall_byte (by decide +kernel)
  obtain ⟨digit, member, same⟩ := List.mem_map.mp listed
  exact ⟨digit, member, same.symm⟩

/-- The digits of bytes denote what the bytes do. -/
theorem decode_flatMap_hexByte (bytes : List UInt8) (start : Nat) :
    (bytes.flatMap hexByte).foldl
        (fun value digit => value * 16 + hexDigits.idxOf digit) start =
      bytes.foldl (fun read byte => read * 256 + byte.toNat) start := by
  induction bytes generalizing start with
  | nil => rfl
  | cons byte rest induction =>
      have range := byte.toNat_lt
      have value : (start * 16 + byte.toNat / 16) * 16 + byte.toNat % 16 =
          start * 256 + byte.toNat := by
        omega
      rw [List.flatMap_cons, List.foldl_append, induction, List.foldl_cons,
        hexByte, List.foldl_cons, List.foldl_cons, List.foldl_nil,
        idxOf_digitChar (by omega), idxOf_digitChar (by omega), value]

theorem foldl_setUint (width : Nat) (value : Int) (start : Nat) :
    (setUint width value).foldl
        (fun read byte => read * 256 + byte.toNat) start =
      start * 256 ^ width + (value % 256 ^ width).toNat := by
  have positive : (0 : Int) < 256 ^ width := Int.pow_pos (by decide)
  have below := Int.emod_lt_of_pos value positive
  have range : (value % 256 ^ width).toNat < 256 ^ width := by
    rw [Int.toNat_lt (Int.emod_nonneg value positive.ne')]
    exact_mod_cast below
  unfold setUint
  rw [foldl_bigEndian, Nat.mod_eq_of_lt range]

/-- The digits that an id is made of. -/
def digits : List Char :=
  (bytes now random).flatMap hexByte

theorem decode_digits {now : Int} (since : 0 ≤ now) (small : now < 2 ^ 48)
    (random : Fin 16 → UInt8) :
    (decode ((digits now random).take 12) : Int) = now := by
  have first : (digits now random).take 12 =
      (setUint 4 (now / 0x10000) ++ setUint 2 (now % 0x10000)).flatMap
        hexByte := rfl
  rw [first, decode, decode_flatMap_hexByte, List.foldl_append, foldl_setUint,
    foldl_setUint]
  omega

theorem formatted_digits : Formatted (uuidv7 now random) (digits now random) where
  length := by
    rw [← String.length_toList]
    unfold uuidv7
    rw [String.toList_ofList]
    rfl
  text := String.toList_ofList
  size := rfl
  lower := by
    intro digit member
    obtain ⟨byte, -, inside⟩ := List.mem_flatMap.mp member
    exact mem_hexDigits_of_hexByte byte digit inside
  version := hexByte_version (random 6)
  variant := hexByte_variant (random 8)

end Reading

/--
An id is written with hyphens between 32 digits, of which the first 48 bits are
the milliseconds it was made at; of two ids, the one that was made earlier is
the smaller text.
-/
theorem ids_encode_times :
    (∀ (now : Int) (random : Fin 16 → UInt8), 0 ≤ now → now < 2 ^ 48 →
      ∃ digits, Formatted (writtenUuidv7 now random) digits ∧
        (decode (digits.take 12) : Int) = now) ∧
    ∀ (now later : Int) (random other : Fin 16 → UInt8),
      0 ≤ now → now < later → later < 2 ^ 48 →
        writtenUuidv7 now random < writtenUuidv7 later other := by
  constructor
  · intro now random since small
    rw [writtenUuidv7_eq]
    exact ⟨digits now random, formatted_digits now random,
      decode_digits since small random⟩
  · intro now later random other since earlier small
    rw [writtenUuidv7_eq, writtenUuidv7_eq, uuidv7_lt_iff]
    refine .inl ?_
    unfold stamp
    omega

/-- The low half of the time wraps around between the two ids. -/
theorem ids_encode_times_wrapping :
    (∃ digits, Formatted (writtenUuidv7 0x19affffffff fun _ => 0xff) digits ∧
      (decode (digits.take 12) : Int) = 0x19affffffff) ∧
    writtenUuidv7 0x19affffffff (fun _ => 0xff) <
      writtenUuidv7 0x19b00000000 fun _ => 0 :=
  ⟨ids_encode_times.1 0x19affffffff (fun _ => 0xff) (by decide) (by decide),
    ids_encode_times.2 0x19affffffff 0x19b00000000 (fun _ => 0xff)
      (fun _ => 0) (by decide) (by decide) (by decide)⟩

end ChatBackend.Crypto.SortableIds
