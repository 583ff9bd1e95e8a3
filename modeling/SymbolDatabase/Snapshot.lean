import SymbolDatabase.Database

namespace SymbolDatabase

/-!
# Snapshots

A snapshot lists the referenced names and all symbols of a database, and is what
files carry.  A database is restored from a snapshot only if the parts of the
snapshot agree: every name with its hash, every record with its tag and
identifier, and every identifier with the spelled types that determine it.
-/

/-- One symbol as files carry it. -/
structure SymbolRecord where
  tag : UInt16
  name : NameHash
  parent : NameHash
  identifier : Option UInt64
  body : Body
  deriving Repr, DecidableEq

namespace SymbolRecord

/-- The record of a symbol. -/
def ofSymbol
    (symbol : Symbol) :
    SymbolRecord :=
  { tag := symbol.kind.tag
    name := symbol.name
    parent := symbol.parent
    identifier := symbol.identifier?
    body := symbol.body }

/-- The symbol of a record, whatever its tag and identifier say. -/
def symbol
    (entry : SymbolRecord) :
    Symbol :=
  ⟨entry.name, entry.parent, entry.body⟩

/-- The symbol of a record whose tag, identifier and signature agree. -/
def restore
    (entry : SymbolRecord)
    (names : NameTable) :
    Except Error Symbol :=
  match Kind.ofTag? entry.tag with
  | none =>
      .error (.unknownKind entry.tag)
  | some kind =>
      let symbol := entry.symbol
      if symbol.kind = kind ∧ symbol.identifier? = entry.identifier then
        match symbol.signature? with
        | some signature =>
            if signature.isGenuine names then
              .ok symbol
            else
              .error .corrupt
        | none =>
            .ok symbol
      else
        .error .corrupt

end SymbolRecord

/-- The content of a database file. -/
structure Snapshot where
  version : UInt16
  source : Option String
  hasBaseTypes : Bool
  names : List Name
  records : List SymbolRecord
  deriving Repr, DecidableEq

namespace Snapshot

/-- The version of snapshots that this library writes and reads. -/
def currentVersion : UInt16 :=
  1

/-- Bind the names of a snapshot in order. -/
def restoreNames
    (table : NameTable) :
    List Name → Except Error NameTable
  | [] =>
      .ok table
  | name :: rest =>
      match table.restore name with
      | .ok (_, extended) =>
          restoreNames extended rest
      | .error error =>
          .error error

/-- Restore the symbols of a snapshot in order. -/
def restoreSymbols
    (names : NameTable) :
    List SymbolRecord → Except Error (List Symbol)
  | [] =>
      .ok []
  | entry :: rest =>
      match entry.restore names with
      | .ok symbol =>
          match restoreSymbols names rest with
          | .ok symbols =>
              .ok (symbol :: symbols)
          | .error error =>
              .error error
      | .error error =>
          .error error

/-- The database that a snapshot describes. -/
def restore
    (snapshot : Snapshot) :
    Except Error Database :=
  if snapshot.version = currentVersion then
    match restoreNames NameTable.empty snapshot.names with
    | .error error =>
        .error error
    | .ok names =>
        match restoreSymbols names snapshot.records with
        | .error error =>
            .error error
        | .ok symbols =>
            .ok
              { names := names
                store := Store.ofSymbols symbols
                source := snapshot.source
                hasBaseTypes := snapshot.hasBaseTypes }
  else
    .error .badHeader

end Snapshot

namespace Database

/-- The snapshot of a database. -/
def snapshot
    (database : Database) :
    Snapshot :=
  { version := Snapshot.currentVersion
    source := database.source
    hasBaseTypes := database.hasBaseTypes
    names := database.referencedNames
    records := database.store.all.map SymbolRecord.ofSymbol }

end Database

end SymbolDatabase
