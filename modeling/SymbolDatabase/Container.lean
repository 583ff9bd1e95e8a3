import SymbolDatabase.Digest
import SymbolDatabase.Snapshot.Document

namespace SymbolDatabase

/-!
# The checksummed container

A container is a 24-byte header, a payload and the CRC-32 of the payload.  The
header is the magic `RFDB`, then in little-endian form the version and the flags in
two bytes each, the counts of names and symbols in four bytes each, and the length
of the payload in eight bytes.  The payload is the compact document of a snapshot.
-/

namespace Container

/-- The first four bytes of a container. -/
def magic : Bytes :=
  [0x52, 0x46, 0x44, 0x42]

/-- The length of the header. -/
def headerLength : Nat :=
  24

/-- The length of the check value. -/
def trailerLength : Nat :=
  4

/-- What a header says. -/
structure Header where
  version : UInt16
  flags : UInt16
  names : UInt32
  symbols : UInt32
  payloadLength : UInt64
  deriving Repr, DecidableEq

namespace Header

/-- Whether the lowest flag is set, which stands for the base types. -/
def hasBaseTypes
    (header : Header) :
    Bool :=
  header.flags &&& 1 = 1

/-- The bytes of a header. -/
def encode
    (header : Header) :
    Bytes :=
  magic ++ LittleEndian.encode 2 header.version.toNat ++
    LittleEndian.encode 2 header.flags.toNat ++
    LittleEndian.encode 4 header.names.toNat ++
    LittleEndian.encode 4 header.symbols.toNat ++
    LittleEndian.encode 8 header.payloadLength.toNat

/-- The number in a field of the header. -/
def fieldAt
    (bytes : Bytes)
    (offset width : Nat) :
    Nat :=
  LittleEndian.decode ((bytes.drop offset).take width)

/-- The header at the front of at least 24 bytes, whatever its magic. -/
def decode
    (bytes : Bytes) :
    Header :=
  { version := UInt16.ofNat (fieldAt bytes 4 2)
    flags := UInt16.ofNat (fieldAt bytes 6 2)
    names := UInt32.ofNat (fieldAt bytes 8 4)
    symbols := UInt32.ofNat (fieldAt bytes 12 4)
    payloadLength := UInt64.ofNat (fieldAt bytes 16 8) }

end Header

/-- The check value of a payload, as it stands behind the payload. -/
def trailer
    (payload : Bytes) :
    Bytes :=
  LittleEndian.encode trailerLength (Crc32.checksum payload).toNat

/-- Check framing and checksum, and answer the header and the payload. -/
def check
    (bytes : Bytes) :
    Except Error (Header × Bytes) :=
  if bytes.length < headerLength + trailerLength ∨ bytes.take 4 ≠ magic then
    .error .badHeader
  else
    let header := Header.decode bytes
    if header.version ≠ Snapshot.currentVersion then
      .error .badHeader
    else
      let length := header.payloadLength.toNat
      if headerLength + length + trailerLength ≠ bytes.length then
        .error .corrupt
      else
        let payload := (bytes.drop headerLength).take length
        let stored :=
          UInt32.ofNat (Header.fieldAt bytes (headerLength + length) 4)
        let computed := Crc32.checksum payload
        if stored = computed then
          .ok (header, payload)
        else
          .error (.checksumMismatch stored computed)

/-- The container of a snapshot, whose counts have to fit their fields. -/
def pack
    (snapshot : Snapshot) :
    Except Error Bytes :=
  if snapshot.names.length < UInt32.size ∧ snapshot.records.length < UInt32.size then
    let payload := snapshot.compactDocument
    let header : Header :=
      { version := Snapshot.currentVersion
        flags := if snapshot.hasBaseTypes then 1 else 0
        names := UInt32.ofNat snapshot.names.length
        symbols := UInt32.ofNat snapshot.records.length
        payloadLength := UInt64.ofNat payload.length }
    .ok (header.encode ++ payload ++ trailer payload)
  else
    .error .corrupt

/-- The snapshot in a container, which has to agree with the header. -/
def unpack
    (bytes : Bytes) :
    Except Error Snapshot :=
  match check bytes with
  | .error error =>
      .error error
  | .ok (header, payload) =>
      match Snapshot.ofDocument payload with
      | .error error =>
          .error error
      | .ok snapshot =>
          if snapshot.names.length = header.names.toNat ∧
              snapshot.records.length = header.symbols.toNat ∧
              snapshot.hasBaseTypes = header.hasBaseTypes then
            .ok snapshot
          else
            .error .corrupt

end Container

namespace Database

/-- The container that is saved for a database. -/
def toContainer
    (database : Database) :
    Except Error Bytes :=
  Container.pack database.snapshot

/-- The database in a container. -/
def ofContainer
    (bytes : Bytes) :
    Except Error Database :=
  match Container.unpack bytes with
  | .ok snapshot =>
      snapshot.restore
  | .error error =>
      .error error

end Database

end SymbolDatabase
