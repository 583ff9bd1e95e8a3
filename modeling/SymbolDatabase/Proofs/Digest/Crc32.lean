import Mathlib.Data.List.Basic
import Mathlib.Data.Nat.Bitwise
import Mathlib.Logic.Function.Iterate
import SymbolDatabase.Digest

namespace SymbolDatabase

/-!
# What a CRC-32 detects

Dividing a bit out of a remainder loses nothing, since the polynomial has its highest
bit set.  So remainders can be traced back through any bytes taken in, and four bytes
taken in one after another act like one 32-bit number mixed into the remainder.  Hence
two sequences that end in their own check values, and that are equal outside of four
consecutive bytes, are equal.
-/

namespace Bytes

/-- Byte sequences of one length are equal outside of a window. -/
def EqualOutside
    (start width : Nat)
    (first second : Bytes) :
    Prop :=
  first.length = second.length ∧
    ∀ position,
      position < start ∨ start + width ≤ position →
        first[position]? = second[position]?

/-- Past the end of both sequences there is nothing to compare. -/
instance
    (start width : Nat)
    (first second : Bytes) :
    Decidable (EqualOutside start width first second) :=
  decidable_of_iff
    (first.length = second.length ∧
      ∀ position < first.length,
        position < start ∨ start + width ≤ position →
          first[position]? = second[position]?) <| by
    constructor
    · rintro ⟨sameLength, inside⟩
      refine ⟨sameLength, ?_⟩
      intro position outside
      by_cases within : position < first.length
      · exact inside position within outside
      · rw [List.getElem?_eq_none (by omega), List.getElem?_eq_none (by omega)]
    · rintro ⟨sameLength, equal⟩
      exact ⟨sameLength, fun position _ outside => equal position outside⟩

namespace EqualOutside

variable {start width : Nat} {first second : Bytes}

/-- What stands in front of the window is equal. -/
theorem take_eq
    (equal : EqualOutside start width first second) :
    first.take start = second.take start := by
  apply List.ext_getElem?
  intro position
  simp only [List.getElem?_take]
  split
  next before =>
    exact equal.2 position (Or.inl before)
  next =>
    rfl

/-- What stands behind the window is equal. -/
theorem drop_eq
    (equal : EqualOutside start width first second) :
    first.drop (start + width) = second.drop (start + width) := by
  apply List.ext_getElem?
  intro position
  simp only [List.getElem?_drop]
  exact equal.2 _ (Or.inr (Nat.le_add_right _ _))

/-- Equality outside of a window leaves two contents of the window, of one length. -/
theorem split
    (equal : EqualOutside start width first second) :
    ∃ front window other back,
      first = front ++ (window ++ back) ∧
        second = front ++ (other ++ back) ∧
        window.length = other.length ∧
        window.length ≤ width := by
  refine ⟨first.take start, (first.drop start).take width,
    (second.drop start).take width, first.drop (start + width), ?_, ?_, ?_, ?_⟩
  · rw [← List.drop_drop, List.take_append_drop, List.take_append_drop]
  · rw [equal.take_eq, equal.drop_eq, ← List.drop_drop, List.take_append_drop,
      List.take_append_drop]
  · simp [equal.1]
  · exact List.length_take_le _ _

/-- Without its front, a sequence is equal outside of the shifted window. -/
theorem drop
    (equal : EqualOutside start width first second)
    (count : Nat) :
    EqualOutside (start - count) width (first.drop count) (second.drop count) := by
  refine ⟨by simp [equal.1], ?_⟩
  intro position outside
  simp only [List.getElem?_drop]
  exact equal.2 _ (by omega)

/-- Different contents of one place leave sequences equal outside of it. -/
theorem of_contents
    {front window other : Bytes}
    (isWindow : window.length = width)
    (isOther : other.length = width)
    (back : Bytes) :
    EqualOutside front.length width (front ++ (window ++ back))
      (front ++ (other ++ back)) := by
  refine ⟨by simp [isWindow, isOther], ?_⟩
  rintro position (before | behind)
  · rw [List.getElem?_append_left before, List.getElem?_append_left before]
  · rw [List.getElem?_append_right (by omega), List.getElem?_append_right (by omega),
      List.getElem?_append_right (by omega), List.getElem?_append_right (by omega),
      isWindow, isOther]

end EqualOutside

end Bytes

namespace Crc32

/-- What dividing out the lowest bit does to the number that a remainder is. -/
theorem toNat_divideBit
    (remainder : UInt32) :
    (divideBit remainder).toNat =
      if remainder.toNat % 2 = 1 then
        remainder.toNat / 2 ^^^ 0xEDB88320
      else
        remainder.toNat / 2 := by
  have lowest : remainder &&& 1 = 1 ↔ remainder.toNat % 2 = 1 := by
    rw [← UInt32.toNat_inj, UInt32.toNat_and, UInt32.toNat_one, Nat.and_one_is_mod]
  have shifted : (remainder >>> 1).toNat = remainder.toNat / 2 := by
    rw [UInt32.toNat_shiftRight]
    exact Nat.shiftRight_eq_div_pow _ 1
  unfold divideBit
  simp only [lowest]
  split
  · rw [UInt32.toNat_xor, shifted]
    rfl
  · exact shifted

/-- The highest bit tells whether the polynomial was subtracted, so no bit is lost. -/
theorem divideBit_injective :
    Function.Injective divideBit := by
  intro first second same
  have sameNumber := congrArg UInt32.toNat same
  rw [toNat_divideBit, toNat_divideBit] at sameNumber
  have firstSmall : first.toNat / 2 < 2 ^ 31 := by
    have := first.toNat_lt
    omega
  have secondSmall : second.toNat / 2 < 2 ^ 31 := by
    have := second.toNat_lt
    omega
  have highestDiffers :
      ∀ {half other : Nat},
        half < 2 ^ 31 → other < 2 ^ 31 → half ^^^ 0xEDB88320 ≠ other := by
    intro half other halfSmall otherSmall equal
    have highest := congrArg (Nat.testBit · 31) equal
    simp only [Nat.testBit_xor, Nat.testBit_lt_two_pow halfSmall,
      Nat.testBit_lt_two_pow otherSmall] at highest
    exact absurd highest (by decide)
  apply UInt32.toNat_inj.mp
  split at sameNumber <;> split at sameNumber
  · have halves := congrArg (· ^^^ 0xEDB88320) sameNumber
    simp only [Nat.xor_xor_cancel_right] at halves
    omega
  · exact absurd sameNumber (highestDiffers firstSmall secondSmall)
  · exact absurd sameNumber.symm (highestDiffers secondSmall firstSmall)
  · omega

/-- A byte is mixed in and its bits are divided out. -/
theorem takeByte_eq
    (remainder : UInt32)
    (byte : UInt8) :
    takeByte remainder byte = divideBit^[8] (remainder ^^^ byte.toUInt32) := by
  rw [takeByte, List.foldl_const, List.length_range]

/-- Taking in the same bytes keeps different remainders apart. -/
theorem foldl_takeByte_injective
    (bytes : Bytes) :
    Function.Injective fun remainder => bytes.foldl takeByte remainder := by
  induction bytes with
  | nil =>
      exact Function.injective_id
  | cons byte rest inductionHypothesis =>
      intro first second same
      have sameStep := inductionHypothesis same
      simp only [takeByte_eq] at sameStep
      exact (UInt32.xor_left_inj _).mp (divideBit_injective.iterate 8 sameStep)

/-- What is mixed in above the lowest bit moves down with the remainder. -/
theorem divideBit_xor
    (remainder : UInt32)
    {number : Nat}
    (fits : 2 * number < UInt32.size) :
    divideBit (remainder ^^^ UInt32.ofNat (2 * number)) =
      divideBit remainder ^^^ UInt32.ofNat number := by
  have whole : (UInt32.ofNat (2 * number)).toNat = 2 * number :=
    UInt32.toNat_ofNat_of_lt' fits
  have half : (UInt32.ofNat number).toNat = number :=
    UInt32.toNat_ofNat_of_lt' (by omega)
  have sameParity :
      (remainder.toNat ^^^ 2 * number) % 2 = remainder.toNat % 2 := by
    rw [← Nat.and_one_is_mod, Nat.and_xor_distrib_right]
    simp [Nat.and_one_is_mod]
  apply UInt32.toNat_inj.mp
  rw [UInt32.toNat_xor, toNat_divideBit, toNat_divideBit, UInt32.toNat_xor, whole, half,
    sameParity, Nat.xor_div_two, Nat.mul_div_cancel_left _ (by decide)]
  split
  · rw [Nat.xor_assoc, Nat.xor_comm number, ← Nat.xor_assoc]
  · rfl

/-- What is mixed in above some bits moves down while these bits are divided out. -/
theorem iterate_divideBit_xor
    (remainder : UInt32)
    (bits : Nat)
    {number : Nat}
    (fits : 2 ^ bits * number < UInt32.size) :
    divideBit^[bits] (remainder ^^^ UInt32.ofNat (2 ^ bits * number)) =
      divideBit^[bits] remainder ^^^ UInt32.ofNat number := by
  induction bits generalizing remainder with
  | zero =>
      simp
  | succ bits inductionHypothesis =>
      have doubled : 2 ^ (bits + 1) * number = 2 * (2 ^ bits * number) := by
        rw [Nat.pow_succ, Nat.mul_comm (2 ^ bits), Nat.mul_assoc]
      rw [doubled] at fits ⊢
      rw [Function.iterate_succ_apply, Function.iterate_succ_apply,
        divideBit_xor _ fits, inductionHypothesis _ (by omega)]

/-- A byte and a number above it do not overlap. -/
theorem ofNat_byte_add
    (byte : UInt8)
    (number : Nat) :
    UInt32.ofNat (byte.toNat + 256 * number) =
      byte.toUInt32 ^^^ UInt32.ofNat (2 ^ 8 * number) := by
  have apart : byte.toNat + 256 * number = byte.toNat ^^^ 2 ^ 8 * number := by
    apply Nat.eq_of_testBit_eq
    intro bit
    rw [Nat.add_comm, Nat.testBit_two_pow_mul_add number byte.toNat_lt, Nat.testBit_xor,
      Nat.testBit_two_pow_mul]
    by_cases low : bit < 8
    · simp [low, Nat.not_le.mpr low]
    · have above : byte.toNat.testBit bit = false :=
        Nat.testBit_lt_two_pow
          (Nat.lt_of_lt_of_le byte.toNat_lt
            (Nat.pow_le_pow_right (by decide) (Nat.le_of_not_lt low)))
      simp [low, above, Nat.le_of_not_lt low]
  rw [apart, UInt32.ofNat_xor, ← UInt8.toNat_toUInt32, UInt32.ofNat_toNat]

/--
Up to four bytes act like the number that they hold: it is mixed in, and all its bits are
divided out.
-/
theorem foldl_takeByte_field
    {bytes : Bytes}
    (short : bytes.length ≤ 4)
    (remainder : UInt32) :
    bytes.foldl takeByte remainder =
      divideBit^[8 * bytes.length]
        (remainder ^^^ UInt32.ofNat (LittleEndian.decode bytes)) := by
  induction bytes generalizing remainder with
  | nil =>
      simp [LittleEndian.decode]
  | cons byte rest inductionHypothesis =>
      rw [List.length_cons] at short
      have restFits : 2 ^ 8 * LittleEndian.decode rest < UInt32.size := by
        have below := LittleEndian.decode_lt rest
        have limit : LittleEndian.capacity rest.length ≤ LittleEndian.capacity 3 :=
          LittleEndian.capacity_le_capacity (by omega)
        have threeBytes : LittleEndian.capacity 3 = 16777216 := rfl
        rw [UInt32.size]
        omega
      rw [List.foldl_cons, inductionHypothesis (by omega), takeByte_eq, List.length_cons,
        Nat.mul_succ, Function.iterate_add_apply, LittleEndian.decode, ofNat_byte_add,
        ← UInt32.xor_assoc, iterate_divideBit_xor _ 8 restFits]

/-- Different contents of a window of four bytes leave different remainders. -/
theorem window_eq_of_foldl_eq
    {front window other back : Bytes}
    {remainder : UInt32}
    (sameLength : window.length = other.length)
    (short : window.length ≤ 4)
    (same :
      (front ++ (window ++ back)).foldl takeByte remainder =
        (front ++ (other ++ back)).foldl takeByte remainder) :
    window = other := by
  simp only [List.foldl_append] at same
  have otherShort : other.length ≤ 4 := by
    omega
  have sameInside := foldl_takeByte_injective back same
  rw [foldl_takeByte_field short, foldl_takeByte_field otherShort, sameLength]
    at sameInside
  have sameField :=
    (UInt32.xor_right_inj _).mp (divideBit_injective.iterate _ sameInside)
  have fits :
      ∀ {bytes : Bytes},
        bytes.length ≤ 4 → LittleEndian.decode bytes < UInt32.size := by
    intro bytes few
    exact Nat.lt_of_lt_of_le (LittleEndian.decode_lt bytes)
      (LittleEndian.capacity_le_capacity few)
  apply LittleEndian.eq_of_decode_eq sameLength
  rw [← UInt32.toNat_ofNat_of_lt' (fits short), sameField,
    UInt32.toNat_ofNat_of_lt' (fits otherShort)]

/-- Whether a field behind a payload holds the check value of the payload. -/
def IsChecked
    (payload field : Bytes) :
    Prop :=
  field.length = 4 ∧ UInt32.ofNat (LittleEndian.decode field) = checksum payload

/-- A payload with its check value leaves a remainder that does not depend on it. -/
theorem foldl_takeByte_of_isChecked
    {payload field : Bytes}
    (checked : IsChecked payload field) :
    (payload ++ field).foldl takeByte 0xFFFFFFFF = divideBit^[32] 0xFFFFFFFF := by
  obtain ⟨isField, holds⟩ := checked
  rw [List.foldl_append, foldl_takeByte_field (Nat.le_of_eq isField), isField, holds,
    checksum, ← UInt32.xor_assoc, UInt32.xor_self, UInt32.zero_xor]

/--
Checked payloads that are equal outside of four consecutive bytes, check values included,
are equal.
-/
theorem eq_of_isChecked
    {payload field other otherField : Bytes}
    {start width : Nat}
    (checked : IsChecked payload field)
    (otherChecked : IsChecked other otherField)
    (narrow : width ≤ 4)
    (equal : Bytes.EqualOutside start width (payload ++ field) (other ++ otherField)) :
    payload ++ field = other ++ otherField := by
  have sameRemainder :=
    (foldl_takeByte_of_isChecked checked).trans
      (foldl_takeByte_of_isChecked otherChecked).symm
  obtain ⟨front, window, changed, back, shape, otherShape, sameLength, short⟩ :=
    equal.split
  rw [shape, otherShape] at sameRemainder ⊢
  rw [window_eq_of_foldl_eq sameLength (by omega) sameRemainder]

end Crc32

end SymbolDatabase
