import SymbolDatabase.Json.Reader

namespace SymbolDatabase

/-!
# JSON strings

Between its quotes a string holds UTF-8 with escapes.  Writing escapes quotes,
backslashes and the characters below U+0020, and nothing else.  Reading accepts
every escape of the grammar, wants surrogates in pairs, and checks the UTF-8 only
after the closing quote.  A string that is passed over without being read may
hold unpaired surrogates and bytes that are no UTF-8.
-/

namespace Json

namespace Text

/-- The hexadecimal digit of a number below sixteen, in lower case. -/
def hexDigit
    (number : Nat) :
    UInt8 :=
  (Nat.digitChar number).toUInt8

/-- The written form of one byte of a text. -/
def encodeByte
    (byte : UInt8) :
    Bytes :=
  if byte = 0x22 then
    ['\\'.toUInt8, '"'.toUInt8]
  else if byte = 0x5C then
    ['\\'.toUInt8, '\\'.toUInt8]
  else if byte = 0x08 then
    ['\\'.toUInt8, 'b'.toUInt8]
  else if byte = 0x0C then
    ['\\'.toUInt8, 'f'.toUInt8]
  else if byte = 0x0A then
    ['\\'.toUInt8, 'n'.toUInt8]
  else if byte = 0x0D then
    ['\\'.toUInt8, 'r'.toUInt8]
  else if byte = 0x09 then
    ['\\'.toUInt8, 't'.toUInt8]
  else if byte < 0x20 then
    ['\\'.toUInt8, 'u'.toUInt8, '0'.toUInt8, '0'.toUInt8,
      hexDigit (byte.toNat / 16), hexDigit (byte.toNat % 16)]
  else
    [byte]

/-- A text between quotes. -/
def write
    (text : String) :
    Bytes :=
  '"'.toUInt8 :: (Bytes.ofText text).flatMap encodeByte ++ ['"'.toUInt8]

/-- The byte that an escape of one letter stands for. -/
def plainEscape?
    (letter : UInt8) :
    Option UInt8 :=
  if letter = '"'.toUInt8 then some 0x22
  else if letter = '\\'.toUInt8 then some 0x5C
  else if letter = '/'.toUInt8 then some 0x2F
  else if letter = 'b'.toUInt8 then some 0x08
  else if letter = 'f'.toUInt8 then some 0x0C
  else if letter = 'n'.toUInt8 then some 0x0A
  else if letter = 'r'.toUInt8 then some 0x0D
  else if letter = 't'.toUInt8 then some 0x09
  else none

/-- The value of a hexadecimal digit in either case. -/
def hexValue?
    (byte : UInt8) :
    Option Nat :=
  if 0x30 ≤ byte ∧ byte ≤ 0x39 then
    some (byte.toNat - 0x30)
  else if 0x61 ≤ byte ∧ byte ≤ 0x66 then
    some (byte.toNat - 0x61 + 10)
  else if 0x41 ≤ byte ∧ byte ≤ 0x46 then
    some (byte.toNat - 0x41 + 10)
  else
    none

/-- The number that four hexadecimal digits stand for. -/
def hexUnit?
    (first second third fourth : UInt8) :
    Option Nat := do
  let a ← hexValue? first
  let b ← hexValue? second
  let c ← hexValue? third
  let d ← hexValue? fourth
  pure (((a * 16 + b) * 16 + c) * 16 + d)

/-- Whether a code unit is the first of a surrogate pair. -/
def isLeading
    (unit : Nat) :
    Bool :=
  0xD800 ≤ unit && unit ≤ 0xDBFF

/-- Whether a code unit is the second of a surrogate pair. -/
def isTrailing
    (unit : Nat) :
    Bool :=
  0xDC00 ≤ unit && unit ≤ 0xDFFF

/-- The code point of a surrogate pair. -/
def joinPair
    (leading trailing : Nat) :
    Nat :=
  0x10000 + (leading - 0xD800) * 0x400 + (trailing - 0xDC00)

/-- The UTF-8 form of a code point, appended to a text taken in reverse. -/
def pushCodePoint
    (taken : Bytes)
    (codePoint : Nat) :
    Bytes :=
  (Bytes.ofText (String.singleton (Char.ofNat codePoint))).reverse ++ taken

/--
Take a string after its opening quote.  The first argument holds the bytes taken
so far, last one first.
-/
def takeBody
    (taken : Bytes) :
    Bytes → Except Fault (Bytes × Bytes)
  | [] =>
      .error .truncated
  | byte :: rest =>
      if byte = '"'.toUInt8 then
        .ok (taken.reverse, rest)
      else if byte = '\\'.toUInt8 then
        match rest with
        | [] =>
            .error .truncated
        | letter :: afterLetter =>
            if letter = 'u'.toUInt8 then
              match afterLetter with
              | a :: b :: c :: d :: afterUnit =>
                  match hexUnit? a b c d with
                  | none =>
                      .error .malformed
                  | some unit =>
                      if isTrailing unit then
                        .error .malformed
                      else if isLeading unit then
                        match afterUnit with
                        | [] =>
                            .error .truncated
                        | slash :: afterSlash =>
                            if slash ≠ '\\'.toUInt8 then
                              .error .malformed
                            else
                              match afterSlash with
                              | [] =>
                                  .error .truncated
                              | mark :: afterMark =>
                                  if mark ≠ 'u'.toUInt8 then
                                    .error .malformed
                                  else
                                    match afterMark with
                                    | e :: f :: g :: h :: afterPair =>
                                        match hexUnit? e f g h with
                                        | none =>
                                            .error .malformed
                                        | some second =>
                                            if isTrailing second then
                                              takeBody
                                                (pushCodePoint taken
                                                  (joinPair unit second))
                                                afterPair
                                            else
                                              .error .malformed
                                    | _ =>
                                        .error .truncated
                      else
                        takeBody (pushCodePoint taken unit) afterUnit
              | _ =>
                  .error .truncated
            else
              match plainEscape? letter with
              | some plain =>
                  takeBody (plain :: taken) afterLetter
              | none =>
                  .error .malformed
      else if byte < 0x20 then
        .error .malformed
      else
        takeBody (byte :: taken) rest

/-- Read a string from its opening quote on. -/
def read : Reader String :=
  fun _ input =>
    match input with
    | [] =>
        .error .truncated
    | _ :: body =>
        match takeBody [] body with
        | .ok (bytes, rest) =>
            match Bytes.toText? bytes with
            | some text =>
                .ok (text, rest)
            | none =>
                .error .malformed
        | .error fault =>
            .error fault

/-- Pass over a string after its opening quote. -/
def skipBody : Bytes → Except Fault (Unit × Bytes)
  | [] =>
      .error .truncated
  | byte :: rest =>
      if byte = '"'.toUInt8 then
        .ok ((), rest)
      else if byte = '\\'.toUInt8 then
        match rest with
        | [] =>
            .error .truncated
        | letter :: afterLetter =>
            if letter = 'u'.toUInt8 then
              match afterLetter with
              | a :: b :: c :: d :: afterUnit =>
                  if (hexUnit? a b c d).isSome then
                    skipBody afterUnit
                  else
                    .error .malformed
              | _ =>
                  .error .truncated
            else if (plainEscape? letter).isSome then
              skipBody afterLetter
            else
              .error .malformed
      else if byte < 0x20 then
        .error .malformed
      else
        skipBody rest

/-- Pass over a string from its opening quote on. -/
def skip : Reader Unit :=
  fun _ input =>
    match input with
    | [] =>
        .error .truncated
    | _ :: body =>
        skipBody body

end Text

end Json

end SymbolDatabase
