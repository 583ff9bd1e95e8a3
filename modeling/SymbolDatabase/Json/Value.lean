namespace SymbolDatabase

/-!
# JSON values

The tree form of a JSON document.  A number is kept exactly when it is an integer
of at most 64 bits; every other number is only known to be one.  An object keeps
its members in document order, repetitions included.
-/

namespace Json

/-- A JSON value. -/
inductive Value where
  | null
  | boolean (flag : Bool)
  | integer (number : Int)
  | real
  | text (content : String)
  | array (items : List Value)
  | object (members : List (String × Value))
  deriving Repr

namespace Value

/-- The value of an unsigned number. -/
def ofNat
    (number : Nat) :
    Value :=
  .integer number

/-- The value of something that may be absent. -/
def ofOption
    {α : Type}
    (ofPresent : α → Value) :
    Option α → Value
  | none =>
      .null
  | some present =>
      ofPresent present

/-- The number below a bound that a value holds. -/
def natBelow?
    (bound : Nat) :
    Value → Option Nat
  | .integer number =>
      if 0 ≤ number ∧ number < bound then some number.toNat else none
  | _ =>
      none

/-- The signed 64-bit number that a value holds. -/
def signed? : Value → Option Int64
  | .integer number =>
      if Int64.minValue.toInt ≤ number ∧ number ≤ Int64.maxValue.toInt then
        some (Int64.ofInt number)
      else
        none
  | _ =>
      none

/-- The truth value that a value holds. -/
def boolean? : Value → Option Bool
  | .boolean flag =>
      some flag
  | _ =>
      none

/-- The items of an array, each read on its own. -/
def list?
    {α : Type}
    (item? : Value → Option α) :
    Value → Option (List α)
  | .array items =>
      items.mapM item?
  | _ =>
      none

/-- Something present, or null. -/
def nullable?
    {α : Type}
    (present? : Value → Option α) :
    Value → Option (Option α)
  | .null =>
      some none
  | value =>
      (present? value).map some

end Value

end Json

end SymbolDatabase
