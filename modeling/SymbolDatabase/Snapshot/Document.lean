import SymbolDatabase.Json.Printer
import SymbolDatabase.Snapshot
import SymbolDatabase.Symbol.Document

namespace SymbolDatabase

/-!
# Snapshots as JSON documents

The written form of names, records and snapshots, and the readers for it.  Absent
sources and identifiers are left out when writing, and may be left out when reading.
-/

open Json

/-- A member that a draft keeps once it is read. -/
def readMemberOf
    {σ α : Type}
    (key : String)
    (isOptional : Bool)
    (current : σ → Option α)
    (keep : σ → α → σ)
    (read : Reader α) :
    Member σ (Reader σ) :=
  { key := key
    isSet := fun draft => (current draft).isSome
    isOptional := isOptional
    extend := fun draft => do return keep draft (← read) }

/-- A member that is written only if it is present. -/
def optionalMember
    (key : String) :
    Option Value → List (String × Value)
  | some value =>
      [(key, value)]
  | none =>
      []

namespace Name

/-- The value of a name. -/
def toValue
    (name : Name) :
    Value :=
  .object [("hash", .ofNat name.hash.toNat), ("text", .text name.text)]

/-- The members of a name found so far. -/
structure Draft where
  hash : Option NameHash
  text : Option String

/-- The members of a name. -/
def members : List (Member Draft (Reader Draft)) :=
  [ readMemberOf "hash" false Draft.hash
      (fun draft found => { draft with hash := some found }) Reader.word64,
    readMemberOf "text" false Draft.text
      (fun draft found => { draft with text := some found }) Reader.text ]

/-- The name of a finished draft. -/
def Draft.finish
    (draft : Draft) :
    Option Name := do
  pure
    { hash := ← draft.hash
      text := ← draft.text }

/-- Read a name. -/
def read : Reader Name :=
  Reader.record members ⟨none, none⟩ Draft.finish

end Name

namespace SymbolRecord

/-- The value of a record. -/
def toValue
    (entry : SymbolRecord) :
    Value :=
  .object
    ([ ("kind", .ofNat entry.tag.toNat),
       ("name", .ofNat entry.name.toNat),
       ("parent", .ofNat entry.parent.toNat) ] ++
      optionalMember "unique_id"
        (entry.identifier.map fun identifier => .ofNat identifier.toNat) ++
      [("payload", entry.body.toValue)])

/-- The members of a record found so far. -/
structure Draft where
  tag : Option UInt16
  name : Option NameHash
  parent : Option NameHash
  identifier : Option (Option UInt64)
  body : Option Body

/-- The members of a record.  The identifier may be missing. -/
def members : List (Member Draft (Reader Draft)) :=
  [ readMemberOf "kind" false Draft.tag
      (fun draft found => { draft with tag := some found }) Reader.word16,
    readMemberOf "name" false Draft.name
      (fun draft found => { draft with name := some found }) Reader.word64,
    readMemberOf "parent" false Draft.parent
      (fun draft found => { draft with parent := some found }) Reader.word64,
    readMemberOf "unique_id" true Draft.identifier
      (fun draft found => { draft with identifier := some found })
      (Reader.nullable Reader.word64),
    readMemberOf "payload" false Draft.body
      (fun draft found => { draft with body := some found }) Body.read ]

/-- The record of a finished draft. -/
def Draft.finish
    (draft : Draft) :
    Option SymbolRecord := do
  pure
    { tag := ← draft.tag
      name := ← draft.name
      parent := ← draft.parent
      identifier := draft.identifier.getD none
      body := ← draft.body }

/-- Read a record. -/
def read : Reader SymbolRecord :=
  Reader.record members ⟨none, none, none, none, none⟩ Draft.finish

end SymbolRecord

namespace Snapshot

/-- The value of a snapshot. -/
def toValue
    (snapshot : Snapshot) :
    Value :=
  .object
    ([("version", .ofNat snapshot.version.toNat)] ++
      optionalMember "source" (snapshot.source.map .text) ++
      [ ("base_types", .boolean snapshot.hasBaseTypes),
        ("names", .array (snapshot.names.map Name.toValue)),
        ("primitives", .array (snapshot.records.map SymbolRecord.toValue)) ])

/-- The members of a snapshot found so far. -/
structure Draft where
  version : Option UInt16
  source : Option (Option String)
  hasBaseTypes : Option Bool
  names : Option (List Name)
  records : Option (List SymbolRecord)

/-- The members of a snapshot.  The source and the base types flag may be missing. -/
def members : List (Member Draft (Reader Draft)) :=
  [ readMemberOf "version" false Draft.version
      (fun draft found => { draft with version := some found }) Reader.word16,
    readMemberOf "source" true Draft.source
      (fun draft found => { draft with source := some found })
      (Reader.nullable Reader.text),
    readMemberOf "base_types" true Draft.hasBaseTypes
      (fun draft found => { draft with hasBaseTypes := some found })
      Reader.boolean,
    readMemberOf "names" false Draft.names
      (fun draft found => { draft with names := some found })
      (Reader.list Name.read),
    readMemberOf "primitives" false Draft.records
      (fun draft found => { draft with records := some found })
      (Reader.list SymbolRecord.read) ]

/-- The snapshot of a finished draft. -/
def Draft.finish
    (draft : Draft) :
    Option Snapshot := do
  pure
    { version := ← draft.version
      source := draft.source.getD none
      hasBaseTypes := draft.hasBaseTypes.getD false
      names := ← draft.names
      records := ← draft.records }

/-- Read a snapshot. -/
def read : Reader Snapshot :=
  Reader.record members ⟨none, none, none, none, none⟩ Draft.finish

/-- The snapshot that a document holds. -/
def ofDocument
    (document : Bytes) :
    Except Error Snapshot :=
  match Reader.readDocument read document with
  | .ok snapshot =>
      .ok snapshot
  | .error fault =>
      .error (.json fault)

/-- The document of a snapshot without blanks. -/
def compactDocument
    (snapshot : Snapshot) :
    Bytes :=
  snapshot.toValue.compact

/-- The document of a snapshot over several lines, ended by a line break. -/
def indentedDocument
    (snapshot : Snapshot) :
    Bytes :=
  snapshot.toValue.indented ++ [0x0A]

end Snapshot

namespace Database

/-- The database that a document describes. -/
def ofDocument
    (document : Bytes) :
    Except Error Database := do
  (← Snapshot.ofDocument document).restore

/-- The document that is saved for a database. -/
def toDocument
    (database : Database) :
    Bytes :=
  database.snapshot.indentedDocument

end Database

end SymbolDatabase
