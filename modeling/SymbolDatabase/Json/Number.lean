import SymbolDatabase.Json.Reader
import SymbolDatabase.Json.Value

namespace SymbolDatabase

/-!
# JSON numbers

An integer of at most 64 bits is read exactly.  Any other number only has to be
in the range of double precision: its significant digits are cut at 64 bits, the
rest scales the number, and the scaled product must not round beyond the largest
finite double.  A number that is passed over without being read has no range, and
breaks the grammar when it ends too early.
-/

namespace Json

namespace Number

/-- Whether a byte is a decimal digit. -/
def isDigit
    (byte : UInt8) :
    Bool :=
  0x30 ≤ byte && byte ≤ 0x39

/-- The value of a decimal digit. -/
def digitValue
    (byte : UInt8) :
    Nat :=
  byte.toNat - 0x30

/-- A run of digits: its leading part as a number, and the counts of digits in
and beyond that part. -/
structure Run where
  significand : Nat
  used : Nat
  dropped : Nat
  rest : Bytes
  deriving Repr

/--
Extend a 64-bit number by the digits that follow.  The first digit that
would exceed 64 bits and all digits after it are only counted.
-/
def takeDigits
    (significand used : Nat) :
    Bytes → Run
  | [] =>
      ⟨significand, used, 0, []⟩
  | byte :: rest =>
      if isDigit byte then
        let extended := significand * 10 + digitValue byte
        if extended < UInt64.size then
          takeDigits extended (used + 1) rest
        else
          let remaining := rest.dropWhile isDigit
          ⟨significand, used, rest.length - remaining.length + 1, remaining⟩
      else
        ⟨significand, used, 0, byte :: rest⟩

/-- The number of 53 significant bits nearest to a number, ties to even. -/
def roundToDouble
    (number : Nat) :
    Nat :=
  if number < 1 <<< 53 then
    number
  else
    let shift := number.log2 - 52
    let quotient := number >>> shift
    let remainder := number % 1 <<< shift
    let half := 1 <<< (shift - 1)
    let roundsUp := half < remainder ∨ (remainder = half ∧ quotient % 2 = 1)
    (if roundsUp then quotient + 1 else quotient) <<< shift

/-- Whether a significand scaled by a power of ten exceeds double precision. -/
def exceedsDouble
    (significand : Nat)
    (exponent : Int) :
    Bool :=
  if significand = 0 ∨ exponent < 0 then
    false
  else if 308 < exponent then
    true
  else
    1 <<< 1024 - 1 <<< 970 ≤
      roundToDouble significand * roundToDouble (Nat.pow 10 exponent.toNat)

/-- A number that is no 64-bit integer. -/
def finishReal
    (significand : Nat)
    (exponent : Int)
    (rest : Bytes) :
    Except Fault (Value × Bytes) :=
  if exceedsDouble significand exponent then
    .error .malformed
  else
    .ok (.real, rest)

/-- The largest exponent that is taken at its value. -/
def exponentLimit : Nat :=
  0x7FFFFFFF

/-- The digits of an exponent, after its sign. -/
def readExponentDigits
    (significand : Nat)
    (scale : Int)
    (grows : Bool)
    (input : Bytes) :
    Except Fault (Value × Bytes) :=
  match input with
  | [] =>
      .error .truncated
  | byte :: _ =>
      if isDigit byte then
        let digits := input.takeWhile isDigit
        let rest := input.dropWhile isDigit
        let exponent :=
          digits.foldl (fun total digit => total * 10 + digitValue digit) 0
        if exponentLimit < exponent then
          if significand ≠ 0 ∧ grows then
            .error .malformed
          else
            .ok (.real, rest)
        else if grows then
          finishReal significand (scale + exponent) rest
        else
          finishReal significand (scale - exponent) rest
      else
        .error .malformed

/-- An exponent, after its letter. -/
def readExponent
    (significand : Nat)
    (scale : Int)
    (input : Bytes) :
    Except Fault (Value × Bytes) :=
  match input with
  | [] =>
      .error .truncated
  | sign :: rest =>
      if sign = '+'.toUInt8 then
        readExponentDigits significand scale true rest
      else if sign = '-'.toUInt8 then
        readExponentDigits significand scale false rest
      else
        readExponentDigits significand scale true input

/-- Whether a byte announces an exponent. -/
def isExponentMark
    (byte : UInt8) :
    Bool :=
  byte == 'e'.toUInt8 || byte == 'E'.toUInt8

/-- What may follow the digits of a number that is no integer. -/
def readScale
    (significand : Nat)
    (scale : Int) :
    Bytes → Except Fault (Value × Bytes)
  | [] =>
      finishReal significand scale []
  | byte :: rest =>
      if isExponentMark byte then
        readExponent significand scale rest
      else
        finishReal significand scale (byte :: rest)

/-- A fraction, after its point. -/
def readFraction
    (significand : Nat)
    (scale : Int)
    (input : Bytes) :
    Except Fault (Value × Bytes) :=
  match input with
  | [] =>
      .error .truncated
  | byte :: _ =>
      if isDigit byte then
        let run := takeDigits significand 0 input
        readScale run.significand (scale - run.used) run.rest
      else
        .error .malformed

/-- The value of an integer without fraction or exponent. -/
def integerValue
    (positive : Bool)
    (significand : Nat) :
    Value :=
  if positive then
    .integer significand
  else if 0 < significand ∧ Int64.minValue.toInt ≤ -significand then
    .integer (-significand)
  else
    .real

/-- What follows the integer part of a number. -/
def readTail
    (positive : Bool)
    (run : Run) :
    Except Fault (Value × Bytes) :=
  match run.rest with
  | [] =>
      if run.dropped = 0 then
        .ok (integerValue positive run.significand, [])
      else
        finishReal run.significand run.dropped []
  | byte :: rest =>
      if byte = '.'.toUInt8 then
        readFraction run.significand run.dropped rest
      else if isExponentMark byte then
        readExponent run.significand run.dropped rest
      else if run.dropped = 0 then
        .ok (integerValue positive run.significand, byte :: rest)
      else
        finishReal run.significand run.dropped (byte :: rest)

/-- Whether the next byte is a digit. -/
def startsWithDigit : Bytes → Bool
  | [] =>
      false
  | byte :: _ =>
      isDigit byte

/-- A number after its sign. -/
def readMagnitude
    (positive : Bool) :
    Bytes → Except Fault (Value × Bytes)
  | [] =>
      .error .truncated
  | byte :: rest =>
      if byte = '0'.toUInt8 then
        if startsWithDigit rest then
          .error .malformed
        else
          readTail positive ⟨0, 1, 0, rest⟩
      else if isDigit byte then
        readTail positive (takeDigits 0 0 (byte :: rest))
      else
        .error .malformed

/-- Read a number at the front of a document. -/
def read : Reader Value :=
  fun _ input =>
    match input with
    | [] =>
        .error .truncated
    | byte :: rest =>
        if byte = '-'.toUInt8 then
          readMagnitude false rest
        else
          readMagnitude true (byte :: rest)

/-- Pass over an exponent after its letter. -/
def skipExponent
    (input : Bytes) :
    Except Fault (Unit × Bytes) :=
  let unsigned :=
    match input with
    | [] =>
        []
    | sign :: rest =>
        if sign = '+'.toUInt8 ∨ sign = '-'.toUInt8 then rest else input
  if startsWithDigit unsigned then
    .ok ((), unsigned.dropWhile isDigit)
  else
    .error .malformed

/-- Pass over an optional exponent. -/
def skipScale : Bytes → Except Fault (Unit × Bytes)
  | [] =>
      .ok ((), [])
  | byte :: rest =>
      if isExponentMark byte then skipExponent rest else .ok ((), byte :: rest)

/-- Pass over what follows the integer part of a number. -/
def skipTail : Bytes → Except Fault (Unit × Bytes)
  | [] =>
      .ok ((), [])
  | byte :: rest =>
      if byte = '.'.toUInt8 then
        if startsWithDigit rest then
          skipScale (rest.dropWhile isDigit)
        else
          .error .malformed
      else
        skipScale (byte :: rest)

/-- Pass over a number after its sign. -/
def skipMagnitude : Bytes → Except Fault (Unit × Bytes)
  | [] =>
      .error .malformed
  | byte :: rest =>
      if byte = '0'.toUInt8 then
        if startsWithDigit rest then .error .malformed else skipTail rest
      else if isDigit byte then
        skipTail (rest.dropWhile isDigit)
      else
        .error .malformed

/-- Pass over a number at the front of a document. -/
def skip : Reader Unit :=
  fun _ input =>
    match input with
    | [] =>
        .error .truncated
    | byte :: rest =>
        if byte = '-'.toUInt8 then
          skipMagnitude rest
        else
          skipMagnitude (byte :: rest)

/-- The decimal digits of a number. -/
def digits
    (number : Nat) :
    Bytes :=
  (Nat.toDigits 10 number).map Char.toUInt8

/-- Write an integer. -/
def write : Int → Bytes
  | .ofNat number =>
      digits number
  | .negSucc number =>
      '-'.toUInt8 :: digits (number + 1)

end Number

end Json

end SymbolDatabase
