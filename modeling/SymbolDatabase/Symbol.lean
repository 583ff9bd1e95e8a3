import SymbolDatabase.Kind
import SymbolDatabase.Name

namespace SymbolDatabase

/-!
# Symbols

A symbol is a name, the name of the scope around it, and a body that says what it
is.  Symbols refer to one another by name hash only.  Two symbols have the same
definition when they agree in everything, except that functions and methods only
have to agree in identifier and in the types of result and parameters.
-/

/-- How a slot holds its type. -/
inductive Passing where
  | value
  | pointer
  | reference
  deriving Repr, DecidableEq

/-- A typed place: a data member, a parameter or a result. -/
structure Slot where
  name : NameHash
  type : NameHash
  passing : Passing
  isConst : Bool
  /-- The byte offset inside the enclosing class. -/
  offset : UInt32
  /-- The element count of a fixed array, or zero. -/
  arrayLength : UInt32
  deriving Repr, DecidableEq

namespace Slot

/-- The part of a slot that takes part in the identity of a signature. -/
def projection
    (slot : Slot) :
    Bool × NameHash × Passing :=
  (slot.isConst, slot.type, slot.passing)

/-- The names that a slot refers to. -/
def references
    (slot : Slot) :
    List NameHash :=
  [slot.name, slot.type]

end Slot

/-- The identifier, result and parameters of a function or method. -/
structure Signature where
  identifier : UInt64
  result : Option Slot
  parameters : List Slot
  deriving Repr, DecidableEq

namespace Signature

/-- Whether two signatures agree in identifier and in the types of all their slots. -/
def agrees
    (first second : Signature) :
    Bool :=
  first.identifier = second.identifier &&
    first.result.map Slot.projection = second.result.map Slot.projection &&
    first.parameters.map Slot.projection =
      second.parameters.map Slot.projection

/-- The names that a signature refers to, result first. -/
def references
    (signature : Signature) :
    List NameHash :=
  (signature.result.toList ++ signature.parameters).flatMap Slot.references

end Signature

/-- One argument of an instantiated template. -/
structure TemplateArgument where
  type : NameHash
  isPointer : Bool
  deriving Repr, DecidableEq

/-- What a symbol is, with the details of its kind. -/
inductive Body where
  | scope
  | type (size : UInt32)
  | record (size : UInt32) (base : NameHash)
  | enumeration (size : UInt32)
  | enumerator (value : Int64)
  | field (slot : Slot)
  | function (signature : Signature)
  | method (signature : Signature)
  | template
  | instantiation (size : UInt32) (arguments : List TemplateArgument)
  deriving Repr, DecidableEq

namespace Body

/-- The kind of a body. -/
def kind : Body → Kind
  | .scope =>
      .scope
  | .type _ =>
      .type
  | .record _ _ =>
      .record
  | .enumeration _ =>
      .enumeration
  | .enumerator _ =>
      .enumerator
  | .field _ =>
      .field
  | .function _ =>
      .function
  | .method _ =>
      .method
  | .template =>
      .template
  | .instantiation _ _ =>
      .instantiation

/-- The size in bytes, or zero where a kind has none. -/
def size : Body → UInt32
  | .type size | .record size _ | .enumeration size | .instantiation size _ =>
      size
  | _ =>
      0

/-- The signature of a function or method. -/
def signature? : Body → Option Signature
  | .function signature | .method signature =>
      some signature
  | _ =>
      none

/-- The names that a body refers to, in the order of its details. -/
def references : Body → List NameHash
  | .record _ base =>
      [base]
  | .field slot =>
      slot.references
  | .function signature | .method signature =>
      signature.references
  | .instantiation _ arguments =>
      arguments.map TemplateArgument.type
  | _ =>
      []

/-- Whether two bodies define the same thing. -/
def agrees : Body → Body → Bool
  | .function first, .function second =>
      first.agrees second
  | .method first, .method second =>
      first.agrees second
  | first, second =>
      first = second

end Body

/-- A named entry of a database. -/
structure Symbol where
  name : NameHash
  /-- The name of the scope around the symbol. -/
  parent : NameHash
  body : Body
  deriving Repr, DecidableEq

namespace Symbol

/-- The kind of a symbol. -/
def kind
    (symbol : Symbol) :
    Kind :=
  symbol.body.kind

/-- The size in bytes, or zero where a kind has none. -/
def size
    (symbol : Symbol) :
    UInt32 :=
  symbol.body.size

/-- The signature of a function or method. -/
def signature?
    (symbol : Symbol) :
    Option Signature :=
  symbol.body.signature?

/-- The identifier that tells overloads apart. -/
def identifier?
    (symbol : Symbol) :
    Option UInt64 :=
  symbol.signature?.map Signature.identifier

/-- Whether two symbols define the same thing. -/
def sameDefinition
    (first second : Symbol) :
    Bool :=
  first.name = second.name && first.parent = second.parent &&
    first.body.agrees second.body

/-- Whether two symbols have the same kind, name and identifier. -/
def sameKey
    (first second : Symbol) :
    Bool :=
  first.kind = second.kind && first.name = second.name &&
    first.identifier? = second.identifier?

/-- The names that a symbol refers to, its own first. -/
def references
    (symbol : Symbol) :
    List NameHash :=
  (symbol.name :: symbol.parent :: symbol.body.references).filter
    fun hash => hash ≠ NameHash.absent

end Symbol

end SymbolDatabase
