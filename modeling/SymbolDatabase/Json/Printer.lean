import SymbolDatabase.Json.Number
import SymbolDatabase.Json.Text

namespace SymbolDatabase

/-!
# Writing JSON

A value is written either without any blanks, or over several lines with two
spaces for each level.  Members keep their order, and an empty container stays on
its line in both layouts.
-/

namespace Json

/-- How a document is laid out. -/
inductive Layout where
  | compact
  | indented
  deriving Repr, DecidableEq

namespace Layout

/-- What separates lines at a depth. -/
def lineBreak
    (layout : Layout)
    (depth : Nat) :
    Bytes :=
  match layout with
  | .compact =>
      []
  | .indented =>
      0x0A :: List.replicate (2 * depth) 0x20

/-- What separates a key from its value. -/
def colon : Layout → Bytes
  | .compact =>
      [':'.toUInt8]
  | .indented =>
      [':'.toUInt8, 0x20]

end Layout

namespace Value

mutual

/-- Write a value that stands at a depth. -/
def write
    (layout : Layout)
    (depth : Nat) :
    Value → Bytes
  | .null =>
      Bytes.ofText "null"
  | .boolean true =>
      Bytes.ofText "true"
  | .boolean false =>
      Bytes.ofText "false"
  | .integer number =>
      Number.write number
  | .real =>
      Bytes.ofText "0.0"
  | .text content =>
      Text.write content
  | .array [] =>
      ['['.toUInt8, ']'.toUInt8]
  | .array (first :: rest) =>
      '['.toUInt8 :: layout.lineBreak (depth + 1) ++
        (write layout (depth + 1) first ++
          (writeItems layout depth rest ++
            (layout.lineBreak depth ++ [']'.toUInt8])))
  | .object [] =>
      ['{'.toUInt8, '}'.toUInt8]
  | .object ((name, first) :: rest) =>
      '{'.toUInt8 :: layout.lineBreak (depth + 1) ++
        (Text.write name ++ layout.colon ++
          (write layout (depth + 1) first ++
            (writeMembers layout depth rest ++
              (layout.lineBreak depth ++ ['}'.toUInt8]))))

/-- Write the items after the first of an array that stands at a depth. -/
def writeItems
    (layout : Layout)
    (depth : Nat) :
    List Value → Bytes
  | [] =>
      []
  | item :: rest =>
      ','.toUInt8 :: layout.lineBreak (depth + 1) ++
        (write layout (depth + 1) item ++ writeItems layout depth rest)

/-- Write the members after the first of an object that stands at a depth. -/
def writeMembers
    (layout : Layout)
    (depth : Nat) :
    List (String × Value) → Bytes
  | [] =>
      []
  | (name, value) :: rest =>
      ','.toUInt8 :: layout.lineBreak (depth + 1) ++
        (Text.write name ++ layout.colon ++
          (write layout (depth + 1) value ++ writeMembers layout depth rest))

end

/-- A document without blanks. -/
def compact
    (value : Value) :
    Bytes :=
  write .compact 0 value

/-- A document over several lines. -/
def indented
    (value : Value) :
    Bytes :=
  write .indented 0 value

end Value

end Json

end SymbolDatabase
