namespace SymbolDatabase

/-!
# Byte sequences

File contents, hash inputs and JSON documents are finite lists of bytes.  Text
enters and leaves them as UTF-8; reading text back fails exactly on sequences
that are no UTF-8.

A fixed-width field holds a number as its base-256 digits, least significant
digit first.  Writing keeps the lowest digits only, and reading inverts writing
on every number that fits the width.
-/

/-- The content of a file or of one of its parts. -/
abbrev Bytes := List UInt8

namespace Bytes

/-- The UTF-8 form of a text. -/
def ofText
    (text : String) :
    Bytes :=
  text.toUTF8.data.toList

/-- The text whose UTF-8 form is given, if there is one. -/
def toText?
    (bytes : Bytes) :
    Option String :=
  String.fromUTF8? ⟨bytes.toArray⟩

/-- Writing a text as UTF-8 and reading it back gives the text. -/
theorem toText?_ofText
    (text : String) :
    toText? (ofText text) = some text := by
  have sameBytes :
      (⟨text.toUTF8.data.toList.toArray⟩ : ByteArray) = text.toByteArray := by
    simp
  simp only [toText?, ofText, String.fromUTF8?, sameBytes]
  rw [dif_pos text.isValidUTF8]
  rfl

end Bytes

namespace LittleEndian

/-- The `width` lowest base-256 digits of a number, least significant first. -/
def encode : Nat → Nat → Bytes
  | 0, _ =>
      []
  | width + 1, value =>
      UInt8.ofNat value :: encode width (value / 256)

/-- The number whose base-256 digits, least significant first, are given. -/
def decode : Bytes → Nat
  | [] =>
      0
  | byte :: rest =>
      byte.toNat + 256 * decode rest

/-- How many numbers a field of the given width can hold. -/
def capacity : Nat → Nat
  | 0 =>
      1
  | width + 1 =>
      256 * capacity width

/-- A field occupies exactly its width. -/
@[simp]
theorem length_encode
    (width value : Nat) :
    (encode width value).length = width := by
  induction width generalizing value with
  | zero =>
      rfl
  | succ width inductionHypothesis =>
      simp [encode, inductionHypothesis]

/-- Reading a written field gives the number modulo the field's capacity. -/
theorem decode_encode
    (width value : Nat) :
    decode (encode width value) = value % capacity width := by
  induction width generalizing value with
  | zero =>
      simp [encode, decode, capacity, Nat.mod_one]
  | succ width inductionHypothesis =>
      have split :
          value % capacity (width + 1) =
            value % 256 + 256 * (value / 256 % capacity width) := by
        rw [capacity, Nat.mod_mul]
      simp only [encode, decode, inductionHypothesis, UInt8.toNat_ofNat', split]

/-- Writing the number that a field holds gives the field. -/
theorem encode_decode
    (bytes : Bytes) :
    encode bytes.length (decode bytes) = bytes := by
  induction bytes with
  | nil =>
      rfl
  | cons byte rest inductionHypothesis =>
      have small : byte.toNat < 256 := byte.toNat_lt
      have quotient : (byte.toNat + 256 * decode rest) / 256 = decode rest := by
        omega
      have lowest : UInt8.ofNat (byte.toNat + 256 * decode rest) = byte := by
        apply UInt8.toNat_inj.1
        simp only [UInt8.toNat_ofNat']
        omega
      simp [encode, decode, quotient, lowest, inductionHypothesis]

/-- A wider field can hold more. -/
theorem capacity_le_capacity
    {width wider : Nat}
    (isWider : width ≤ wider) :
    capacity width ≤ capacity wider := by
  induction isWider with
  | refl =>
      exact Nat.le_refl _
  | step _ inductionHypothesis =>
      rw [capacity]
      omega

/-- Only the lowest digits of a number are written. -/
theorem encode_mod_capacity
    (width value : Nat) :
    encode width (value % capacity width) = encode width value := by
  rw [← decode_encode]
  have written := encode_decode (encode width value)
  rwa [length_encode] at written

/-- Fields of one width that hold the same number are equal. -/
theorem eq_of_decode_eq
    {first second : Bytes}
    (sameWidth : first.length = second.length)
    (sameNumber : decode first = decode second) :
    first = second := by
  rw [← encode_decode first, ← encode_decode second, sameWidth, sameNumber]

/-- A field of a given width holds a number below its capacity. -/
theorem decode_lt
    (bytes : Bytes) :
    decode bytes < capacity bytes.length := by
  induction bytes with
  | nil =>
      simp [decode, capacity]
  | cons byte rest inductionHypothesis =>
      have small : byte.toNat < 256 := byte.toNat_lt
      simp only [decode, capacity, List.length_cons]
      omega

end LittleEndian

end SymbolDatabase
