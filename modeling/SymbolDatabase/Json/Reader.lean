import SymbolDatabase.Bytes

namespace SymbolDatabase

/-!
# Reading JSON from bytes

A reader consumes the front of a document.  It is told how many more containers
may be opened inside one another, and either answers a result with the rest of
the document or names the first fault that it meets.  Faults are met in document
order, so a wrong kind of value hides whatever is malformed after it.
-/

namespace Json

/-- Why a document is refused. -/
inductive Fault where
  /-- The bytes break the grammar, or a limit on numbers or nesting. -/
  | malformed
  /-- The document ends too early. -/
  | truncated
  /-- A value is not of the kind that is wanted in its place. -/
  | mismatched
  /-- The bytes cannot be obtained. -/
  | unreadable
  deriving Repr, DecidableEq

/-- A consumer of the front of a document. -/
def Reader (α : Type) : Type :=
  Nat → Bytes → Except Fault (α × Bytes)

namespace Reader

instance : Monad Reader where
  pure result :=
    fun _ input => .ok (result, input)
  bind reader next :=
    fun nesting input =>
      match reader nesting input with
      | .ok (result, rest) =>
          next result nesting rest
      | .error fault =>
          .error fault

/-- Refuse the document. -/
def fail
    {α : Type}
    (fault : Fault) :
    Reader α :=
  fun _ _ => .error fault

/-- Read the inside of a container, if one more may be opened. -/
def nested
    {α : Type}
    (inside : Reader α) :
    Reader α :=
  fun nesting input =>
    match nesting with
    | 0 =>
        .error .malformed
    | deeper + 1 =>
        inside deeper input

/-- The bytes that may stand between tokens. -/
def isBlank
    (byte : UInt8) :
    Bool :=
  byte == 0x20 || byte == 0x0A || byte == 0x0D || byte == 0x09

/-- The rest of a document from its first byte that is not blank. -/
def skipBlanks
    (input : Bytes) :
    Bytes :=
  input.dropWhile isBlank

/-- Pass over blanks and answer the next byte without consuming it. -/
def look : Reader UInt8 :=
  fun _ input =>
    match skipBlanks input with
    | [] =>
        .error .truncated
    | byte :: rest =>
        .ok (byte, byte :: rest)

/-- Consume one byte. -/
def advance : Reader Unit :=
  fun _ input =>
    match input with
    | [] =>
        .error .truncated
    | _ :: rest =>
        .ok ((), rest)

/-- Consume the given bytes. -/
def literal : Bytes → Reader Unit
  | [] =>
      pure ()
  | expected :: more =>
      fun nesting input =>
        match input with
        | [] =>
            .error .truncated
        | byte :: rest =>
            if byte = expected then
              literal more nesting rest
            else
              .error .malformed

/-- Pass over blanks and consume the given punctuation. -/
def punctuation
    (mark : Char) :
    Reader Unit := do
  let byte ← look
  if byte = mark.toUInt8 then advance else fail .malformed

/-- How many containers a document may open inside one another. -/
def nestingLimit : Nat :=
  127

/-- Read a whole document, after which only blanks may follow. -/
def readDocument
    {α : Type}
    (reader : Reader α)
    (document : Bytes) :
    Except Fault α :=
  match reader nestingLimit document with
  | .ok (result, rest) =>
      if (skipBlanks rest).isEmpty then .ok result else .error .malformed
  | .error fault =>
      .error fault

/-- A reader followed by another runs the second on what the first leaves. -/
theorem bind_eq
    {α β : Type}
    (reader : Reader α)
    (next : α → Reader β)
    (nesting : Nat)
    (input : Bytes) :
    (reader >>= next) nesting input =
      match reader nesting input with
      | .ok (result, rest) =>
          next result nesting rest
      | .error fault =>
          .error fault :=
  rfl

end Reader

end Json

end SymbolDatabase
