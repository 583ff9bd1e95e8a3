import SymbolDatabase.Json.Number
import SymbolDatabase.Json.Sequence

namespace SymbolDatabase

/-!
# Reading any JSON value

A value of unknown kind is read into its tree.  Where a value of another kind is
wanted, the value found is still read as far as its own first fault, and only then
refused.
-/

namespace Json

namespace Reader

/-- One value, whose containers hold values read by `inner`. -/
def valueWith
    (inner : Reader Value) :
    Reader Value := do
  let byte ← look
  if byte = 'n'.toUInt8 then
    literal (Bytes.ofText "null")
    pure .null
  else if byte = 't'.toUInt8 then
    literal (Bytes.ofText "true")
    pure (.boolean true)
  else if byte = 'f'.toUInt8 then
    literal (Bytes.ofText "false")
    pure (.boolean false)
  else if byte = '-'.toUInt8 ∨ Number.isDigit byte then
    Number.read
  else if byte = '"'.toUInt8 then
    return .text (← Text.read)
  else if byte = '['.toUInt8 then
    advance
    let found ← nested (items inner true)
    advance
    pure (.array found)
  else if byte = '{'.toUInt8 then
    advance
    let reversed ←
      nested
        (collect hasMember
          (fun taken => do
            let name ← key
            let value ← inner
            pure ((name, value) :: taken))
          true [])
    advance
    pure (.object reversed.reverse)
  else
    fail .malformed

/-- One value with at most `depth` containers inside one another. -/
def valueWithin : (depth : Nat) → Reader Value
  | 0 =>
      valueWith (fail .malformed)
  | depth + 1 =>
      valueWith (valueWithin depth)

/-- One value, nested as deeply as the document still allows. -/
def value : Reader Value :=
  fun nesting input => valueWithin nesting nesting input

/-- Refuse the value that follows as one of the wrong kind. -/
def refuse
    {α : Type} :
    Reader α := do
  let byte ← look
  if byte = 'n'.toUInt8 then
    literal (Bytes.ofText "null")
    fail .mismatched
  else if byte = 't'.toUInt8 then
    literal (Bytes.ofText "true")
    fail .mismatched
  else if byte = 'f'.toUInt8 then
    literal (Bytes.ofText "false")
    fail .mismatched
  else if byte = '-'.toUInt8 ∨ Number.isDigit byte then
    let _ ← Number.read
    fail .mismatched
  else if byte = '"'.toUInt8 then
    let _ ← Text.read
    fail .mismatched
  else if byte = '['.toUInt8 ∨ byte = '{'.toUInt8 then
    fail .mismatched
  else
    fail .malformed

end Reader

end Json

end SymbolDatabase
