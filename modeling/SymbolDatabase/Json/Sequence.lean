import SymbolDatabase.Json.Text

namespace SymbolDatabase

/-!
# The insides of JSON containers

Items and members are separated by single commas.  A container's inside is read
by repeating a step for as long as another item or member begins.
-/

namespace Json

namespace Reader

/-- Whether another item begins before the array ends. -/
def hasItem
    (isFirst : Bool) :
    Reader Bool := do
  let byte ← look
  if byte = ']'.toUInt8 then
    pure false
  else if isFirst then
    pure true
  else if byte = ','.toUInt8 then
    advance
    let following ← look
    if following = ']'.toUInt8 then fail .malformed else pure true
  else
    fail .malformed

/-- Whether another member, which starts with a string, begins before the object ends. -/
def hasMember
    (isFirst : Bool) :
    Reader Bool := do
  let byte ← look
  if byte = '}'.toUInt8 then
    pure false
  else if isFirst then
    if byte = '"'.toUInt8 then pure true else fail .malformed
  else if byte = ','.toUInt8 then
    advance
    let following ← look
    if following = '"'.toUInt8 then pure true else fail .malformed
  else
    fail .malformed

/-- Repeat a step while another entry begins, at most `limit` times. -/
def repeatWhile
    {σ : Type}
    (more : Bool → Reader Bool)
    (step : σ → Reader σ) :
    (limit : Nat) → (isFirst : Bool) → σ → Reader σ
  | 0, _, _ =>
      fail .malformed
  | limit + 1, isFirst, state => do
      if ← more isFirst then
        let next ← step state
        repeatWhile more step limit false next
      else
        pure state

/--
Repeat a step over all entries of a container.  Every entry takes at least one
byte, so there are no more of them than bytes in the input.
-/
def collect
    {σ : Type}
    (more : Bool → Reader Bool)
    (step : σ → Reader σ)
    (isFirst : Bool)
    (state : σ) :
    Reader σ :=
  fun nesting input =>
    repeatWhile more step (input.length + 1) isFirst state nesting input

/-- The remaining items of an array, each read by the same reader. -/
def items
    {α : Type}
    (item : Reader α)
    (isFirst : Bool) :
    Reader (List α) := do
  let reversed ←
    collect hasItem (fun taken => do return (← item) :: taken) isFirst []
  pure reversed.reverse

/-- The key of a member and the colon after it. -/
def key : Reader String := do
  let name ← Text.read
  punctuation ':'
  pure name

end Reader

end Json

end SymbolDatabase
