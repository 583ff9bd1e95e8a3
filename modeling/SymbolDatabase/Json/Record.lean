import SymbolDatabase.Json.Any
import SymbolDatabase.Json.Skip

namespace SymbolDatabase

/-!
# Records in JSON documents

A record is written as an object with its members in any order and unknown members
between them, or as an array of its members in their order.  Reading fills a draft
member by member; a member may come only once, and the finished draft decides
whether one is missing.  The same members describe how a record is taken out of a
value that was already read.
-/

namespace Json

/-- One member of a record that is collected in a draft. -/
structure Member (σ ρ : Type) where
  key : String
  /-- Whether the draft already has the member. -/
  isSet : σ → Bool
  /-- Whether the array form may end before the member. -/
  isOptional : Bool
  /-- How the member is added to a draft. -/
  extend : σ → ρ

namespace Reader

/-- A whole number below a bound. -/
def natBelow
    (bound : Nat) :
    Reader Nat := do
  let byte ← look
  if byte = '-'.toUInt8 ∨ Number.isDigit byte then
    match (← Number.read).natBelow? bound with
    | some number =>
        pure number
    | none =>
        fail .mismatched
  else
    refuse

/-- A 16-bit number. -/
def word16 : Reader UInt16 := do
  return UInt16.ofNat (← natBelow UInt16.size)

/-- A 64-bit number. -/
def word64 : Reader UInt64 := do
  return UInt64.ofNat (← natBelow UInt64.size)

/-- A truth value. -/
def boolean : Reader Bool := do
  let byte ← look
  if byte = 't'.toUInt8 then
    literal (Bytes.ofText "true")
    pure true
  else if byte = 'f'.toUInt8 then
    literal (Bytes.ofText "false")
    pure false
  else
    refuse

/-- A text. -/
def text : Reader String := do
  let byte ← look
  if byte = '"'.toUInt8 then Text.read else refuse

/-- Something that may be null. -/
def nullable
    {α : Type}
    (present : Reader α) :
    Reader (Option α) := do
  let byte ← look
  if byte = 'n'.toUInt8 then
    literal (Bytes.ofText "null")
    pure none
  else
    return some (← present)

/-- An array of items of one sort. -/
def list
    {α : Type}
    (item : Reader α) :
    Reader (List α) := do
  let byte ← look
  if byte = '['.toUInt8 then
    advance
    let found ← nested (items item true)
    advance
    pure found
  else
    refuse

/-- Add the member under a key to a draft, or pass over an unknown one. -/
def extendByKey
    {σ : Type}
    (members : List (Member σ (Reader σ)))
    (draft : σ) :
    Reader σ := do
  let name ← Text.read
  match members.find? fun member => member.key = name with
  | some member =>
      if member.isSet draft then
        fail .mismatched
      else
        punctuation ':'
        member.extend draft
  | none =>
      punctuation ':'
      skipValue
      pure draft

/-- Add members to a draft in their order, as far as items follow. -/
def extendInOrder
    {σ : Type} :
    List (Member σ (Reader σ)) → (isFirst : Bool) → σ → Reader σ
  | [], _, draft =>
      pure draft
  | member :: rest, isFirst, draft => do
      if ← hasItem isFirst then
        let extended ← member.extend draft
        extendInOrder rest false extended
      else if member.isOptional then
        extendInOrder rest isFirst draft
      else
        fail .mismatched

/-- The result of a finished draft. -/
def finished
    {α : Type} :
    Option α → Reader α
  | some result =>
      pure result
  | none =>
      fail .mismatched

/-- Read a record. -/
def record
    {σ α : Type}
    (members : List (Member σ (Reader σ)))
    (blank : σ)
    (finish : σ → Option α) :
    Reader α := do
  let byte ← look
  if byte = '['.toUInt8 then
    advance
    let result ←
      nested do
        let draft ← extendInOrder members true blank
        finished (finish draft)
    punctuation ']'
    pure result
  else if byte = '{'.toUInt8 then
    advance
    let result ←
      nested do
        let draft ← collect hasMember (extendByKey members) true blank
        finished (finish draft)
    advance
    pure result
  else
    refuse

/-- A text that stands for one of several alternatives. -/
def oneOf
    {τ : Type}
    (ofText? : String → Option τ) :
    Reader τ := do
  finished (ofText? (← text))

/--
Read a record that names its own alternative: under a key in an object, first in an
array.  The other members are answered as a value without the tag.
-/
def tagged
    {τ : Type}
    (tagKey : String)
    (ofText? : String → Option τ) :
    Reader (τ × Value) := do
  let byte ← look
  if byte = '['.toUInt8 then
    advance
    let result ←
      nested do
        if ← hasItem true then
          let tag ← oneOf ofText?
          let rest ← items value false
          pure (tag, Value.array rest)
        else
          fail .mismatched
    advance
    pure result
  else if byte = '{'.toUInt8 then
    advance
    let result ←
      nested do
        let (tag?, reversed) ←
          collect hasMember
            (fun (tag?, taken) => do
              let name ← Text.read
              if name = tagKey then
                if tag?.isSome then
                  fail .mismatched
                else
                  punctuation ':'
                  let tag ← oneOf ofText?
                  pure (some tag, taken)
              else
                punctuation ':'
                let member ← value
                pure (tag?, (name, member) :: taken))
            true ((none : Option τ), [])
        match tag? with
        | some tag =>
            pure (tag, Value.object reversed.reverse)
        | none =>
            fail .mismatched
    advance
    pure result
  else
    refuse

end Reader

namespace Value

/-- Add the member under a key to a draft, or leave out an unknown one. -/
def extendByKey?
    {σ : Type}
    (members : List (Member σ (Value → Option σ)))
    (draft : σ)
    (entry : String × Value) :
    Option σ :=
  match members.find? fun member => member.key = entry.1 with
  | some member =>
      if member.isSet draft then none else member.extend draft entry.2
  | none =>
      some draft

/-- Add members to a draft in their order; no item may be left over. -/
def extendInOrder?
    {σ : Type} :
    List (Member σ (Value → Option σ)) → List Value → σ → Option σ
  | [], [], draft =>
      some draft
  | [], _ :: _, _ =>
      none
  | member :: rest, [], draft =>
      if member.isOptional then extendInOrder? rest [] draft else none
  | member :: rest, item :: items, draft =>
      (member.extend draft item).bind (extendInOrder? rest items)

/-- Take a record out of a value. -/
def record?
    {σ α : Type}
    (members : List (Member σ (Value → Option σ)))
    (blank : σ)
    (finish : σ → Option α) :
    Value → Option α
  | .object entries =>
      (entries.foldlM (extendByKey? members) blank).bind finish
  | .array items =>
      (extendInOrder? members items blank).bind finish
  | _ =>
      none

end Value

end Json

end SymbolDatabase
