import SymbolDatabase.Json.Number
import SymbolDatabase.Json.Sequence

namespace SymbolDatabase

/-!
# Passing over JSON values

A value that nobody asks for only has to follow the grammar.  Its containers are
tracked on a stack, so it may be nested to any depth.
-/

namespace Json

namespace Skip

open Reader

/-- A container that has been opened and not yet closed. -/
inductive Enclosure where
  | list
  | object
  deriving Repr, DecidableEq

/-- The byte that closes a container. -/
def Enclosure.closer : Enclosure → UInt8
  | .list =>
      ']'.toUInt8
  | .object =>
      '}'.toUInt8

/-- What comes next inside the innermost open container. -/
inductive Stage where
  /-- A value has to follow. -/
  | value
  /-- The container was just opened. -/
  | opened
  /-- A value was just completed. -/
  | completed
  deriving Repr, DecidableEq

/-- Pass over a scalar, or enter a container. -/
def head : Reader (Option Enclosure) := do
  let byte ← look
  if byte = 'n'.toUInt8 then
    literal (Bytes.ofText "null")
    pure none
  else if byte = 't'.toUInt8 then
    literal (Bytes.ofText "true")
    pure none
  else if byte = 'f'.toUInt8 then
    literal (Bytes.ofText "false")
    pure none
  else if byte = '-'.toUInt8 ∨ Number.isDigit byte then
    Number.skip
    pure none
  else if byte = '"'.toUInt8 then
    Text.skip
    pure none
  else if byte = '['.toUInt8 then
    advance
    pure (some .list)
  else if byte = '{'.toUInt8 then
    advance
    pure (some .object)
  else
    fail .malformed

/-- Pass over what stands before a value inside a container. -/
def beforeValue : Enclosure → Reader Unit
  | .list =>
      pure ()
  | .object => do
      let byte ← look
      if byte = '"'.toUInt8 then
        Text.skip
        punctuation ':'
      else
        fail .malformed

/-- Pass over the rest of a value whose open containers are stacked. -/
def run :
    (limit : Nat) → Stage → List Enclosure → Reader Unit
  | 0, _, _ =>
      fail .malformed
  | limit + 1, .value, stack => do
      match ← head with
      | none =>
          run limit .completed stack
      | some enclosure =>
          run limit .opened (enclosure :: stack)
  | _ + 1, .opened, [] =>
      pure ()
  | limit + 1, .opened, enclosure :: stack => do
      let byte ← look
      if byte = enclosure.closer then
        advance
        run limit .completed stack
      else
        beforeValue enclosure
        run limit .value (enclosure :: stack)
  | _ + 1, .completed, [] =>
      pure ()
  | limit + 1, .completed, enclosure :: stack => do
      let byte ← look
      if byte = ','.toUInt8 then
        advance
        beforeValue enclosure
        run limit .value (enclosure :: stack)
      else if byte = enclosure.closer then
        advance
        run limit .completed stack
      else
        fail .malformed

end Skip

/--
Pass over one value.  At most two stages share a byte, which bounds their number.
-/
def Reader.skipValue : Reader Unit :=
  fun nesting input =>
    Skip.run (2 * input.length + 2) .value [] nesting input

end Json

end SymbolDatabase
