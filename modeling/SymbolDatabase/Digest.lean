import SymbolDatabase.Bytes

namespace SymbolDatabase

/-!
# Digests

Two digests of byte sequences.  Names are identified by XXH3 with 64 bits and seed
zero.  An input is mixed with a fixed secret by one of six schemes, chosen by its
length: empty, 1 to 3 bytes, 4 to 8, 9 to 16, 17 to 128, 129 to 240, and more.  The
last one consumes 64-byte stripes into eight accumulators and scrambles them after
every 1024-byte block.  All sums and products wrap at 64 bits unless a full product
is folded.

Containers are checked by CRC-32, the cyclic redundancy check with the reflected
polynomial `0xEDB88320`, all ones before the first byte and complemented after the
last.  One byte costs eight divisions by the polynomial; the check of a sequence is a
left fold over it.
-/

namespace Xxh3

/-- The mixing secret, as little-endian 64-bit words. -/
def secretWords : List Nat :=
  [ 0xbe4ba423396cfeb8, 0x1cad21f72c81017c, 0xdb979083e96dd4de,
    0x1f67b3b7a4a44072, 0x78e5c0cc4ee679cb, 0x2172ffcc7dd05a82,
    0x8e2443f7744608b8, 0x4c263a81e69035e0, 0xcb00c391bb52283c,
    0xa32e531b8b65d088, 0x4ef90da297486471, 0xd8acdea946ef1938,
    0x3f349ce33f76faa8, 0x1d4f0bc7c7bbdcf9, 0x3159b4cd4be0518a,
    0x647378d9c97e9fc8, 0xc3ebd33483acc5ea, 0xeb6313faffa081c5,
    0x49daf0b751dd0d17, 0x9e68d429265516d3, 0xfca1477d58be162b,
    0xce31d07ad1b8f88f, 0x280416958f3acb45, 0x7e404bbbcafbd7af ]

/-- The 192 bytes of the mixing secret. -/
def secret : Bytes :=
  secretWords.flatMap (LittleEndian.encode 8)

/-- The 64-bit word at an offset. -/
def lane
    (bytes : Bytes)
    (offset : Nat) :
    UInt64 :=
  UInt64.ofNat (LittleEndian.decode ((bytes.drop offset).take 8))

/-- The 32-bit word at an offset. -/
def halfLane
    (bytes : Bytes)
    (offset : Nat) :
    UInt64 :=
  UInt64.ofNat (LittleEndian.decode ((bytes.drop offset).take 4))

/-- The byte at an offset. -/
def byteAt
    (bytes : Bytes)
    (offset : Nat) :
    UInt64 :=
  (bytes.getD offset 0).toUInt64

/-- A word turned left by a number of bits below 64. -/
def rotateLeft
    (word count : UInt64) :
    UInt64 :=
  (word <<< count) ||| (word >>> (64 - count))

/-- A word with the order of its bytes reversed. -/
def reverseBytes
    (word : UInt64) :
    UInt64 :=
  UInt64.ofNat
    (LittleEndian.decode (LittleEndian.encode 8 word.toNat).reverse)

/-- The two halves of the full 128-bit product, combined by exclusive or. -/
def foldProduct
    (left right : UInt64) :
    UInt64 :=
  let product := left.toNat * right.toNat
  UInt64.ofNat product ^^^ UInt64.ofNat (product / UInt64.size)

def prime32First : UInt64 := 0x9E3779B1
def prime32Second : UInt64 := 0x85EBCA77
def prime32Third : UInt64 := 0xC2B2AE3D
def prime64First : UInt64 := 0x9E3779B185EBCA87
def prime64Second : UInt64 := 0xC2B2AE3D27D4EB4F
def prime64Third : UInt64 := 0x165667B19E3779F9
def prime64Fourth : UInt64 := 0x85EBCA77C2B2AE63
def prime64Fifth : UInt64 := 0x27D4EB2F165667C5
def mixerFirst : UInt64 := 0x165667919E3779F9
def mixerSecond : UInt64 := 0x9FB21C651E98DF25

/-- The final mixing of inputs of more than eight bytes. -/
def avalanche
    (word : UInt64) :
    UInt64 :=
  let spread := (word ^^^ (word >>> 37)) * mixerFirst
  spread ^^^ (spread >>> 32)

/-- The final mixing of inputs of at most three bytes. -/
def shortAvalanche
    (word : UInt64) :
    UInt64 :=
  let first := (word ^^^ (word >>> 33)) * prime64Second
  let second := (first ^^^ (first >>> 29)) * prime64Third
  second ^^^ (second >>> 32)

/-- The final mixing of inputs of four to eight bytes. -/
def middleAvalanche
    (word length : UInt64) :
    UInt64 :=
  let turned := word ^^^ rotateLeft word 49 ^^^ rotateLeft word 24
  let first := turned * mixerSecond
  let second := (first ^^^ ((first >>> 35) + length)) * mixerSecond
  second ^^^ (second >>> 28)

/-- The hash of the empty input. -/
def digestEmpty : UInt64 :=
  shortAvalanche (lane secret 56 ^^^ lane secret 64)

/-- The hash of one to three bytes. -/
def digestTiny
    (input : Bytes) :
    UInt64 :=
  let length := input.length
  let combined :=
    (byteAt input 0 <<< 16) ||| (byteAt input (length / 2) <<< 24) |||
      byteAt input (length - 1) ||| (UInt64.ofNat length <<< 8)
  shortAvalanche (combined ^^^ (halfLane secret 0 ^^^ halfLane secret 4))

/-- The hash of four to eight bytes. -/
def digestSmall
    (input : Bytes) :
    UInt64 :=
  let length := input.length
  let combined := halfLane input (length - 4) + (halfLane input 0 <<< 32)
  middleAvalanche (combined ^^^ (lane secret 8 ^^^ lane secret 16))
    (UInt64.ofNat length)

/-- The hash of nine to sixteen bytes. -/
def digestShort
    (input : Bytes) :
    UInt64 :=
  let length := input.length
  let low := lane input 0 ^^^ (lane secret 24 ^^^ lane secret 32)
  let high := lane input (length - 8) ^^^ (lane secret 40 ^^^ lane secret 48)
  avalanche
    (UInt64.ofNat length + reverseBytes low + high + foldProduct low high)

/-- The folded product of sixteen input bytes with sixteen secret bytes. -/
def mixSixteen
    (input : Bytes)
    (offset secretOffset : Nat) :
    UInt64 :=
  foldProduct
    (lane input offset ^^^ lane secret secretOffset)
    (lane input (offset + 8) ^^^ lane secret (secretOffset + 8))

/-- The sum of a word over the numbers below a bound. -/
def sumBelow
    (bound : Nat)
    (term : Nat → UInt64) :
    UInt64 :=
  (List.range bound).foldl (fun total index => total + term index) 0

/-- The hash of 17 to 128 bytes, which mixes the input from both ends. -/
def digestMedium
    (input : Bytes) :
    UInt64 :=
  let length := input.length
  avalanche
    (UInt64.ofNat length * prime64First +
      sumBelow ((length - 1) / 32 + 1) fun index =>
        mixSixteen input (16 * index) (32 * index) +
          mixSixteen input (length - 16 * (index + 1)) (32 * index + 16))

/-- The hash of 129 to 240 bytes, which mixes the input from the front. -/
def digestLong
    (input : Bytes) :
    UInt64 :=
  let length := input.length
  let front :=
    avalanche
      (UInt64.ofNat length * prime64First +
        sumBelow 8 fun index => mixSixteen input (16 * index) (16 * index))
  avalanche
    (front +
      (sumBelow (length / 16 - 8) fun index =>
        mixSixteen input (16 * (index + 8)) (16 * index + 3)) +
      mixSixteen input (length - 16) 119)

/-- The starting values of the eight accumulators. -/
def initialAccumulators : List UInt64 :=
  [ prime32Third, prime64First, prime64Second, prime64Third,
    prime64Fourth, prime32Second, prime64Fifth, prime32First ]

/-- Exchange the members of each neighbouring pair. -/
def exchangePairs : List UInt64 → List UInt64
  | first :: second :: rest =>
      second :: first :: exchangePairs rest
  | remaining =>
      remaining

/-- The eight words of a 64-byte stripe. -/
def stripeLanes
    (stripe : Bytes) :
    List UInt64 :=
  (List.range 8).map fun index => lane stripe (8 * index)

/-- The product of the two halves of a word. -/
def halfProduct
    (word : UInt64) :
    UInt64 :=
  let low : UInt64 := word &&& 0xFFFFFFFF
  let high : UInt64 := word >>> 32
  low * high

/--
Add one stripe: each accumulator gains the neighbouring input word and the
product of the halves of its own word mixed with the secret.
-/
def addStripe
    (accumulators : List UInt64)
    (stripe secretPart : Bytes) :
    List UInt64 :=
  let words := stripeLanes stripe
  let keyed := List.zipWith (· ^^^ ·) words (stripeLanes secretPart)
  List.zipWith (· + ·)
    (List.zipWith (· + ·) accumulators (exchangePairs words))
    (keyed.map halfProduct)

/-- Add consecutive stripes, advancing eight secret bytes with each. -/
def addStripes
    (accumulators : List UInt64)
    (input : Bytes)
    (count : Nat) :
    List UInt64 :=
  (List.range count).foldl
    (fun current index =>
      addStripe current (input.drop (64 * index)) (secret.drop (8 * index)))
    accumulators

/-- Scramble the accumulators at the end of a block. -/
def scramble
    (accumulators : List UInt64) :
    List UInt64 :=
  List.zipWith
    (fun (word key : UInt64) =>
      ((word ^^^ (word >>> 47)) ^^^ key) * prime32First)
    accumulators (stripeLanes (secret.drop 128))

/-- The folded products of accumulator pairs mixed with the secret, added up. -/
def foldAccumulators : List UInt64 → List UInt64 → UInt64
  | first :: second :: rest, firstKey :: secondKey :: keys =>
      foldProduct (first ^^^ firstKey) (second ^^^ secondKey) +
        foldAccumulators rest keys
  | _, _ =>
      0

/-- The hash of more than 240 bytes. -/
def digestStriped
    (input : Bytes) :
    UInt64 :=
  let length := input.length
  let blocks := (length - 1) / 1024
  let afterBlocks :=
    (List.range blocks).foldl
      (fun current index =>
        scramble (addStripes current (input.drop (1024 * index)) 16))
      initialAccumulators
  let afterStripes :=
    addStripes afterBlocks (input.drop (1024 * blocks))
      ((length - 1 - 1024 * blocks) / 64)
  let afterLast :=
    addStripe afterStripes (input.drop (length - 64)) (secret.drop 121)
  avalanche
    (UInt64.ofNat length * prime64First +
      foldAccumulators afterLast (stripeLanes (secret.drop 11)))

/-- The hash of a byte sequence. -/
def digest
    (input : Bytes) :
    UInt64 :=
  if input.length = 0 then
    digestEmpty
  else if input.length ≤ 3 then
    digestTiny input
  else if input.length ≤ 8 then
    digestSmall input
  else if input.length ≤ 16 then
    digestShort input
  else if input.length ≤ 128 then
    digestMedium input
  else if input.length ≤ 240 then
    digestLong input
  else
    digestStriped input

end Xxh3

namespace Crc32

/-- Divide the lowest bit out of a remainder. -/
def divideBit
    (remainder : UInt32) :
    UInt32 :=
  if remainder &&& 1 = 1 then
    (remainder >>> 1) ^^^ 0xEDB88320
  else
    remainder >>> 1

/-- Take one byte into a remainder. -/
def takeByte
    (remainder : UInt32)
    (byte : UInt8) :
    UInt32 :=
  (List.range 8).foldl (fun current _ => divideBit current)
    (remainder ^^^ byte.toUInt32)

/-- The check value of a byte sequence. -/
def checksum
    (bytes : Bytes) :
    UInt32 :=
  bytes.foldl takeByte 0xFFFFFFFF ^^^ 0xFFFFFFFF

end Crc32

end SymbolDatabase
