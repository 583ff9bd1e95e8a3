import SymbolDatabase.Digest
import SymbolDatabase.Error

namespace SymbolDatabase

/-!
# Names and their hashes

A name is a text together with its hash, and everything in a database refers to
names by hash.  Hash zero stands for the absent name, whose text is empty.  A
name table lists bound names in the order in which they were first bound; it only
grows, and a hash stays bound to its text.
-/

/-- The hash by which a name is referred to. -/
abbrev NameHash := UInt64

namespace NameHash

/-- The hash that refers to no name. -/
def absent : NameHash :=
  0

/-- The hash of a text. -/
def ofText
    (text : String) :
    NameHash :=
  Xxh3.digest (Bytes.ofText text)

/-- Combine two hashes; the order of the two matters. -/
def mix
    (first second : UInt64) :
    UInt64 :=
  Xxh3.digest
    (LittleEndian.encode 8 first.toNat ++ LittleEndian.encode 8 second.toNat)

end NameHash

/-- A text and the hash that it is known by. -/
structure Name where
  hash : NameHash
  text : String
  deriving Repr, DecidableEq

namespace Name

/-- The name that stands for no name and for unknown hashes. -/
def absent : Name :=
  ⟨NameHash.absent, ""⟩

/-- Whether this is the absent name. -/
def isAbsent
    (name : Name) :
    Bool :=
  name.hash = NameHash.absent

end Name

/-- Bound names, in the order of their first binding. -/
structure NameTable where
  names : List Name
  deriving Repr, DecidableEq

namespace NameTable

/-- The table without names. -/
def empty : NameTable :=
  ⟨[]⟩

/-- The name bound to a hash. -/
def find?
    (table : NameTable)
    (hash : NameHash) :
    Option Name :=
  table.names.find? fun name => name.hash = hash

/-- The name bound to a hash, or the absent name. -/
def resolve
    (table : NameTable)
    (hash : NameHash) :
    Name :=
  (table.find? hash).getD Name.absent

/-- Whether a hash is bound. -/
def contains
    (table : NameTable)
    (hash : NameHash) :
    Bool :=
  (table.find? hash).isSome

/-- Bind a text to a hash, unless the hash is reserved or bound to another text. -/
def bind
    (table : NameTable)
    (hash : NameHash)
    (text : String) :
    Except Error (Name × NameTable) :=
  if hash = NameHash.absent then
    .error (.nameCollision hash "" text)
  else
    match table.find? hash with
    | some existing =>
        if existing.text = text then
          .ok (existing, table)
        else
          .error (.nameCollision hash existing.text text)
    | none =>
        .ok (⟨hash, text⟩, ⟨table.names ++ [⟨hash, text⟩]⟩)

/-- Bind a text to its hash.  The empty text is the absent name and is not bound. -/
def intern
    (table : NameTable)
    (text : String) :
    Except Error (Name × NameTable) :=
  if text = "" then
    .ok (Name.absent, table)
  else
    table.bind (NameHash.ofText text) text

/-- Bind a text that may be missing; a missing text is the absent name. -/
def internOptional
    (table : NameTable) :
    Option String → Except Error (Name × NameTable)
  | some text =>
      table.intern text
  | none =>
      .ok (Name.absent, table)

/-- Bind a stored name, whose hash must be that of its text. -/
def restore
    (table : NameTable)
    (name : Name) :
    Except Error (Name × NameTable) :=
  if name = Name.absent then
    .ok (Name.absent, table)
  else
    let computed := NameHash.ofText name.text
    if computed = name.hash then
      table.bind computed name.text
    else
      .error (.nameMismatch name.text name.hash computed)

/-- Bind names one after another up to the first that cannot be bound. -/
def absorb
    (table : NameTable) :
    List Name → Except Error Unit × NameTable
  | [] =>
      (.ok (), table)
  | name :: rest =>
      match table.bind name.hash name.text with
      | .ok (_, extended) =>
          extended.absorb rest
      | .error error =>
          (.error error, table)

/-- A bound name has the hash that it was looked up by. -/
theorem hash_of_find?
    {table : NameTable}
    {hash : NameHash}
    {name : Name}
    (found : table.find? hash = some name) :
    name.hash = hash := by
  simpa [find?] using List.find?_some found

/-- A bound name is listed. -/
theorem mem_of_find?
    {table : NameTable}
    {hash : NameHash}
    {name : Name}
    (found : table.find? hash = some name) :
    name ∈ table.names :=
  List.mem_of_find?_eq_some found

/-- Binding answers the name itself, and lists it last unless its hash was bound. -/
theorem bind_eq_ok
    {table extended : NameTable}
    {hash : NameHash}
    {text : String}
    {name : Name}
    (bound : table.bind hash text = .ok (name, extended)) :
    name = ⟨hash, text⟩ ∧
      extended.names =
        if table.contains hash then
          table.names
        else
          table.names ++ [⟨hash, text⟩] := by
  unfold bind at bound
  split at bound
  · cases bound
  · split at bound
    next existing found =>
      split at bound
      next sameText =>
        cases bound
        obtain ⟨heldHash, heldText⟩ := name
        have sameHash := hash_of_find? found
        simp_all [contains]
      next =>
        cases bound
    next missing =>
      cases bound
      simp [contains, missing]

end NameTable

end SymbolDatabase
