import SymbolDatabase.Identifier
import SymbolDatabase.Store

namespace SymbolDatabase

/-!
# Symbol databases

A database holds the names and symbols of one scanned unit, or of several units
merged into one.  An edit changes a database and answers a result or an error;
what was done before an error stays done.
-/

/-- The names and symbols of a unit. -/
structure Database where
  names : NameTable
  store : Store
  /-- The label of the scanned unit. -/
  source : Option String
  /-- Whether the scalar base types were added. -/
  hasBaseTypes : Bool
  deriving Repr, DecidableEq

/-- A change of a database that may fail on the way. -/
abbrev Edit := ExceptT Error (StateM Database)

namespace Database

/-- The database without names and symbols. -/
def empty : Database :=
  ⟨NameTable.empty, Store.empty, none, false⟩

/-- How many symbols there are. -/
def size
    (database : Database) :
    Nat :=
  database.store.size

/-- The symbols of a kind, in order. -/
def symbols
    (database : Database)
    (kind : Kind) :
    List Symbol :=
  database.store.symbols kind

/-- The symbols of a kind whose name is a text.  Unknown text names none. -/
def lookupText
    (database : Database)
    (kind : Kind)
    (text : String) :
    List Symbol :=
  let hash := NameHash.ofText text
  if database.names.contains hash then
    database.store.lookup kind hash
  else
    []

/-- How many symbols of each kind there are. -/
def statistics
    (database : Database) :
    List (Kind × Nat) :=
  Kind.all.map fun kind => (kind, database.store.count kind)

/--
The bound names that symbols refer to, each once, in the order in which a walk
over all symbols meets them first.
-/
def referencedNames
    (database : Database) :
    List Name :=
  (database.store.all.flatMap Symbol.references).eraseDups.filterMap
    database.names.find?

end Database

namespace Edit

/-- Replace the name table as a step that may fail without effect. -/
def withNames
    (step : NameTable → Except Error (Name × NameTable)) :
    Edit Name :=
  fun database =>
    match step database.names with
    | .ok (name, names) =>
        (.ok name, { database with names := names })
    | .error error =>
        (.error error, database)

/-- Bind a text to its hash. -/
def intern
    (text : String) :
    Edit Name :=
  withNames fun names => names.intern text

/-- Bind a text that may be missing. -/
def internOptional
    (text : Option String) :
    Edit Name :=
  withNames fun names => names.internOptional text

/-- Label the unit that the database came from. -/
def setSource
    (source : Option String) :
    Edit Unit :=
  modify fun database => { database with source := source }

/-- Note that the scalar base types are there. -/
def markBaseTypes : Edit Unit :=
  modify fun database => { database with hasBaseTypes := true }

/-- Add a symbol, or find the one with the same definition. -/
def addSymbol
    (symbol : Symbol) :
    Edit Handle := do
  let database ← get
  let ((handle, _), store) := database.store.add symbol
  set { database with store := store }
  pure handle

/-- Add a symbol under a name given by its text. -/
def addNamed
    (text : String)
    (parent : NameHash)
    (body : Body) :
    Edit Handle := do
  let name ← intern text
  addSymbol ⟨name.hash, parent, body⟩

/-- Add a namespace. -/
def addScope
    (text : String)
    (parent : NameHash) :
    Edit Handle :=
  addNamed text parent .scope

/-- Add a type. -/
def addType
    (text : String)
    (parent : NameHash)
    (size : UInt32) :
    Edit Handle :=
  addNamed text parent (.type size)

/-- Add a class.  Its base class may be named before it is added itself. -/
def addRecord
    (text : String)
    (parent : NameHash)
    (size : UInt32)
    (base : Option String) :
    Edit Handle := do
  let name ← intern text
  let baseName ← internOptional base
  addSymbol ⟨name.hash, parent, .record size baseName.hash⟩

/-- Add an enumeration. -/
def addEnumeration
    (text : String)
    (parent : NameHash)
    (size : UInt32) :
    Edit Handle :=
  addNamed text parent (.enumeration size)

/-- Add a constant of an enumeration. -/
def addEnumerator
    (text : String)
    (parent : NameHash)
    (value : Int64) :
    Edit Handle :=
  addNamed text parent (.enumerator value)

/-- A slot that holds a value of a type, with both of its names bound. -/
def valueSlot
    (text type : String) :
    Edit Slot := do
  let name ← intern text
  let typeName ← intern type
  pure
    { name := name.hash
      type := typeName.hash
      passing := .value
      isConst := false
      offset := 0
      arrayLength := 0 }

/-- Add a data member, which is named by its slot. -/
def addField
    (parent : NameHash)
    (slot : Slot) :
    Edit Handle :=
  addSymbol ⟨slot.name, parent, .field slot⟩

/-- The signature of a result and parameters under the current names. -/
def signature
    (result : Option Slot)
    (parameters : List Slot) :
    Edit Signature := do
  let database ← get
  pure (Signature.ofSlots database.names result parameters)

/-- Add a function. -/
def addFunction
    (text : String)
    (parent : NameHash)
    (result : Option Slot)
    (parameters : List Slot) :
    Edit Handle := do
  let name ← intern text
  let found ← signature result parameters
  addSymbol ⟨name.hash, parent, .function found⟩

/-- Add a method. -/
def addMethod
    (text : String)
    (parent : NameHash)
    (result : Option Slot)
    (parameters : List Slot) :
    Edit Handle := do
  let name ← intern text
  let found ← signature result parameters
  addSymbol ⟨name.hash, parent, .method found⟩

/-- Add a template. -/
def addTemplate
    (text : String)
    (parent : NameHash) :
    Edit Handle :=
  addNamed text parent .template

/-- Bind the type of one template argument. -/
def internArgument
    (argument : String × Bool) :
    Edit TemplateArgument := do
  let name ← intern argument.1
  pure ⟨name.hash, argument.2⟩

/-- Add an instantiated template.  An argument is a type and whether it is a pointer. -/
def addInstantiation
    (text : String)
    (parent : NameHash)
    (size : UInt32)
    (arguments : List (String × Bool)) :
    Edit Handle := do
  let name ← intern text
  let found ← arguments.mapM internArgument
  addSymbol ⟨name.hash, parent, .instantiation size found⟩

/-- The scalar base types and their sizes in bytes. -/
def baseTypes : List (String × UInt32) :=
  [ ("void", 0),
    ("bool", 1),
    ("char", 1),
    ("unsigned char", 1),
    ("short", 2),
    ("unsigned short", 2),
    ("int", 4),
    ("unsigned int", 4),
    ("long", 8),
    ("unsigned long", 8),
    ("float", 4),
    ("double", 8) ]

/-- Add the scalar base types, unless they were added before. -/
def addBaseTypes : Edit Unit := do
  let database ← get
  if database.hasBaseTypes then
    pure ()
  else
    baseTypes.forM fun entry => discard (addType entry.1 NameHash.absent entry.2)
    markBaseTypes

end Edit

namespace Database

/-- A database that holds the scalar base types, or the error met on the way. -/
def withBaseTypes : Except Error Unit × Database :=
  Edit.addBaseTypes.run empty

end Database

end SymbolDatabase
