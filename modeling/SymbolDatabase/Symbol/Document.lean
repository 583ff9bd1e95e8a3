import SymbolDatabase.Json.Record
import SymbolDatabase.Symbol

namespace SymbolDatabase

/-!
# Symbols in JSON documents

How slots, signatures, template arguments and bodies are written as JSON values and
taken out of them.  A body is an object whose first member names its kind.
-/

open Json

namespace Passing

/-- How a way of passing is written. -/
def text : Passing → String
  | .value =>
      "Value"
  | .pointer =>
      "Pointer"
  | .reference =>
      "Reference"

/-- The way of passing that is written as a text. -/
def ofText? : String → Option Passing
  | "Value" =>
      some .value
  | "Pointer" =>
      some .pointer
  | "Reference" =>
      some .reference
  | _ =>
      none

/--
A way of passing is a text, or an object with that text as its only key and nothing
in it.
-/
def ofValue? : Value → Option Passing
  | .text content =>
      ofText? content
  | .object [(key, .null)] | .object [(key, .object [])] =>
      ofText? key
  | _ =>
      none

end Passing

/-- A 32-bit number taken out of a value. -/
def word32OfValue?
    (value : Value) :
    Option UInt32 :=
  (value.natBelow? UInt32.size).map UInt32.ofNat

/-- A 64-bit number taken out of a value. -/
def word64OfValue?
    (value : Value) :
    Option UInt64 :=
  (value.natBelow? UInt64.size).map UInt64.ofNat

/-- A member that a draft keeps once it is found. -/
def memberOf
    {σ α : Type}
    (key : String)
    (isOptional : Bool)
    (current : σ → Option α)
    (keep : σ → α → σ)
    (take? : Value → Option α) :
    Member σ (Value → Option σ) :=
  { key := key
    isSet := fun draft => (current draft).isSome
    isOptional := isOptional
    extend := fun draft value => (take? value).map (keep draft) }

namespace Slot

/-- The value of a slot. -/
def toValue
    (slot : Slot) :
    Value :=
  .object
    [ ("name", .ofNat slot.name.toNat),
      ("type_name", .ofNat slot.type.toNat),
      ("modifier", .text slot.passing.text),
      ("is_const", .boolean slot.isConst),
      ("offset", .ofNat slot.offset.toNat),
      ("array_len", .ofNat slot.arrayLength.toNat) ]

/-- The members of a slot found so far. -/
structure Draft where
  name : Option NameHash
  type : Option NameHash
  passing : Option Passing
  isConst : Option Bool
  offset : Option UInt32
  arrayLength : Option UInt32

/-- The members of a slot.  The last two may be missing, and are zero then. -/
def members : List (Member Draft (Value → Option Draft)) :=
  [ memberOf "name" false Draft.name
      (fun draft found => { draft with name := some found }) word64OfValue?,
    memberOf "type_name" false Draft.type
      (fun draft found => { draft with type := some found }) word64OfValue?,
    memberOf "modifier" false Draft.passing
      (fun draft found => { draft with passing := some found })
      Passing.ofValue?,
    memberOf "is_const" false Draft.isConst
      (fun draft found => { draft with isConst := some found })
      Value.boolean?,
    memberOf "offset" true Draft.offset
      (fun draft found => { draft with offset := some found }) word32OfValue?,
    memberOf "array_len" true Draft.arrayLength
      (fun draft found => { draft with arrayLength := some found })
      word32OfValue? ]

/-- The slot of a finished draft. -/
def Draft.finish
    (draft : Draft) :
    Option Slot := do
  pure
    { name := ← draft.name
      type := ← draft.type
      passing := ← draft.passing
      isConst := ← draft.isConst
      offset := draft.offset.getD 0
      arrayLength := draft.arrayLength.getD 0 }

/-- A slot taken out of a value. -/
def ofValue? : Value → Option Slot :=
  Value.record? members ⟨none, none, none, none, none, none⟩ Draft.finish

end Slot

namespace Signature

/-- The members of a signature's value. -/
def valueMembers
    (signature : Signature) :
    List (String × Value) :=
  [ ("unique_id", .ofNat signature.identifier.toNat),
    ("return_field", .ofOption Slot.toValue signature.result),
    ("parameters", .array (signature.parameters.map Slot.toValue)) ]

/-- The members of a signature found so far. -/
structure Draft where
  identifier : Option UInt64
  result : Option (Option Slot)
  parameters : Option (List Slot)

/-- The members of a signature. -/
def members : List (Member Draft (Value → Option Draft)) :=
  [ memberOf "unique_id" false Draft.identifier
      (fun draft found => { draft with identifier := some found })
      word64OfValue?,
    memberOf "return_field" false Draft.result
      (fun draft found => { draft with result := some found })
      (Value.nullable? Slot.ofValue?),
    memberOf "parameters" false Draft.parameters
      (fun draft found => { draft with parameters := some found })
      (Value.list? Slot.ofValue?) ]

/-- The signature of a finished draft.  An object may leave out the result. -/
def Draft.finish
    (draft : Draft) :
    Option Signature := do
  pure
    { identifier := ← draft.identifier
      result := draft.result.getD none
      parameters := ← draft.parameters }

/-- A signature taken out of a value. -/
def ofValue? : Value → Option Signature :=
  Value.record? members ⟨none, none, none⟩ Draft.finish

end Signature

namespace TemplateArgument

/-- The value of a template argument. -/
def toValue
    (argument : TemplateArgument) :
    Value :=
  .object
    [ ("type_name", .ofNat argument.type.toNat),
      ("is_pointer", .boolean argument.isPointer) ]

/-- The members of a template argument found so far. -/
structure Draft where
  type : Option NameHash
  isPointer : Option Bool

/-- The members of a template argument. -/
def members : List (Member Draft (Value → Option Draft)) :=
  [ memberOf "type_name" false Draft.type
      (fun draft found => { draft with type := some found }) word64OfValue?,
    memberOf "is_pointer" false Draft.isPointer
      (fun draft found => { draft with isPointer := some found })
      Value.boolean? ]

/-- The template argument of a finished draft. -/
def Draft.finish
    (draft : Draft) :
    Option TemplateArgument := do
  pure
    { type := ← draft.type
      isPointer := ← draft.isPointer }

/-- A template argument taken out of a value. -/
def ofValue? : Value → Option TemplateArgument :=
  Value.record? members ⟨none, none⟩ Draft.finish

end TemplateArgument

namespace Body

/-- The details of a body, apart from the name of its kind. -/
def valueMembers : Body → List (String × Value)
  | .scope | .template =>
      []
  | .type size | .enumeration size =>
      [("size", .ofNat size.toNat)]
  | .record size base =>
      [("size", .ofNat size.toNat), ("base_class", .ofNat base.toNat)]
  | .enumerator value =>
      [("value", .integer value.toInt)]
  | .field slot =>
      match slot.toValue with
      | .object members =>
          members
      | _ =>
          []
  | .function signature | .method signature =>
      signature.valueMembers
  | .instantiation size arguments =>
      [ ("size", .ofNat size.toNat),
        ("arguments", .array (arguments.map TemplateArgument.toValue)) ]

/-- The value of a body. -/
def toValue
    (body : Body) :
    Value :=
  .object (("kind", .text body.kind.payloadTag) :: body.valueMembers)

/-- The plain details of bodies found so far. -/
structure Draft where
  size : Option UInt32
  base : Option NameHash
  value : Option Int64
  arguments : Option (List TemplateArgument)

/-- The draft without details. -/
def Draft.blank : Draft :=
  ⟨none, none, none, none⟩

/-- A size in bytes. -/
def sizeMember : Member Draft (Value → Option Draft) :=
  memberOf "size" false Draft.size
    (fun draft found => { draft with size := some found }) word32OfValue?

/-- The name of a base class. -/
def baseMember : Member Draft (Value → Option Draft) :=
  memberOf "base_class" false Draft.base
    (fun draft found => { draft with base := some found }) word64OfValue?

/-- The value of a constant. -/
def valueMember : Member Draft (Value → Option Draft) :=
  memberOf "value" false Draft.value
    (fun draft found => { draft with value := some found }) Value.signed?

/-- The arguments of an instantiated template. -/
def argumentsMember : Member Draft (Value → Option Draft) :=
  memberOf "arguments" false Draft.arguments
    (fun draft found => { draft with arguments := some found })
    (Value.list? TemplateArgument.ofValue?)

/-- A body without details, whose array form is empty. -/
def bare?
    (body : Body) :
    Value → Option Body
  | .object _ | .array [] =>
      some body
  | _ =>
      none

/-- A body of a kind taken out of a value without the name of the kind. -/
def ofValue?
    (kind : Kind)
    (value : Value) :
    Option Body :=
  match kind with
  | .scope =>
      bare? .scope value
  | .type =>
      Value.record? [sizeMember] Draft.blank
        (fun draft => draft.size.map .type) value
  | .record =>
      Value.record? [sizeMember, baseMember] Draft.blank
        (fun draft => do return .record (← draft.size) (← draft.base)) value
  | .enumeration =>
      Value.record? [sizeMember] Draft.blank
        (fun draft => draft.size.map .enumeration) value
  | .enumerator =>
      Value.record? [valueMember] Draft.blank
        (fun draft => draft.value.map .enumerator) value
  | .field =>
      (Slot.ofValue? value).map .field
  | .function =>
      (Signature.ofValue? value).map .function
  | .method =>
      (Signature.ofValue? value).map .method
  | .template =>
      bare? .template value
  | .instantiation =>
      Value.record? [sizeMember, argumentsMember] Draft.blank
        (fun draft => do
          return .instantiation (← draft.size) (← draft.arguments))
        value

/-- Read a body. -/
def read : Reader Body := do
  let (kind, value) ← Reader.tagged "kind" Kind.ofPayloadTag?
  Reader.finished (ofValue? kind value)

end Body

end SymbolDatabase
