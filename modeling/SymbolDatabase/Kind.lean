namespace SymbolDatabase

/-!
# Kinds of symbols

The ten kinds in the order in which databases are walked.  A kind has a numeric
tag in files, a label in messages, a title in conflict records and a tag inside
payloads.
-/

/-- What a symbol is. -/
inductive Kind where
  /-- A namespace. -/
  | scope
  /-- A scalar or otherwise opaque type. -/
  | type
  /-- A class. -/
  | record
  /-- An enumeration. -/
  | enumeration
  /-- A constant of an enumeration. -/
  | enumerator
  /-- A data member. -/
  | field
  /-- A free function. -/
  | function
  /-- A member function. -/
  | method
  /-- A template. -/
  | template
  /-- A template applied to arguments. -/
  | instantiation
  deriving Repr, DecidableEq

namespace Kind

/-- All kinds, in the order of their tags. -/
def all : List Kind :=
  [ .scope, .type, .record, .enumeration, .enumerator, .field, .function,
    .method, .template, .instantiation ]

/-- The place of a kind in tables with one entry for each kind. -/
def slot : Kind → Fin 10
  | .scope =>
      0
  | .type =>
      1
  | .record =>
      2
  | .enumeration =>
      3
  | .enumerator =>
      4
  | .field =>
      5
  | .function =>
      6
  | .method =>
      7
  | .template =>
      8
  | .instantiation =>
      9

/-- The tag of a kind in files, counted from one. -/
def tag
    (kind : Kind) :
    UInt16 :=
  UInt16.ofNat (kind.slot.val + 1)

/-- The kind with a tag. -/
def ofTag?
    (tag : UInt16) :
    Option Kind :=
  all.find? fun kind => kind.tag = tag

/-- Whether symbols of a kind carry a signature. -/
def isCallable : Kind → Bool
  | .function | .method =>
      true
  | _ =>
      false

/-- The name of a kind in messages. -/
def label : Kind → String
  | .scope =>
      "namespace"
  | .type =>
      "type"
  | .record =>
      "class"
  | .enumeration =>
      "enum"
  | .enumerator =>
      "enum-constant"
  | .field =>
      "field"
  | .function =>
      "function"
  | .method =>
      "method"
  | .template =>
      "template"
  | .instantiation =>
      "template-type"

/-- The kind with a label. -/
def ofLabel?
    (label : String) :
    Option Kind :=
  all.find? fun kind => kind.label = label

/-- The name of a kind in conflict records. -/
def title : Kind → String
  | .scope =>
      "Namespace"
  | .type =>
      "Type"
  | .record =>
      "Class"
  | .enumeration =>
      "Enum"
  | .enumerator =>
      "EnumConstant"
  | .field =>
      "Field"
  | .function =>
      "Function"
  | .method =>
      "Method"
  | .template =>
      "Template"
  | .instantiation =>
      "TemplateType"

/-- The name of a kind inside payloads. -/
def payloadTag : Kind → String
  | .scope =>
      "namespace"
  | .type =>
      "type"
  | .record =>
      "class"
  | .enumeration =>
      "enum"
  | .enumerator =>
      "enum_constant"
  | .field =>
      "field"
  | .function =>
      "function"
  | .method =>
      "method"
  | .template =>
      "template"
  | .instantiation =>
      "template_type"

/-- The kind with a name inside payloads. -/
def ofPayloadTag?
    (tag : String) :
    Option Kind :=
  all.find? fun kind => kind.payloadTag = tag

/-- Every kind is listed. -/
theorem mem_all
    (kind : Kind) :
    kind ∈ all := by
  cases kind <;> decide

/-- A tag leads back to its kind. -/
theorem ofTag?_tag
    (kind : Kind) :
    ofTag? kind.tag = some kind := by
  cases kind <;> decide

/-- A name inside payloads leads back to its kind. -/
theorem ofPayloadTag?_payloadTag
    (kind : Kind) :
    ofPayloadTag? kind.payloadTag = some kind := by
  cases kind <;> decide

/-- Different kinds have different places. -/
theorem slot_injective
    {first second : Kind} :
    first.slot = second.slot → first = second := by
  cases first <;> cases second <;> decide

/-- Every place is that of a kind. -/
theorem slot_surjective :
    ∀ place : Fin 10, ∃ kind ∈ all, kind.slot = place := by
  decide

end Kind

end SymbolDatabase
