import SymbolDatabase.Symbol

namespace SymbolDatabase

/-!
# Identifiers of overloads

The identifier of a function or method is determined by the spelled types of its
result and parameters, in order.  Names of parameters, offsets and array lengths
take no part in it, so a declaration repeated with other parameter names keeps
its identifier.
-/

namespace Slot

/--
The spelling of a slot's type: a leading mark for constants, the text of the type
and a trailing mark for pointers and references.  An unbound type has no text.
-/
def spelling
    (slot : Slot)
    (names : NameTable) :
    String :=
  let constant := if slot.isConst then "const " else ""
  let mark :=
    match slot.passing with
    | .value =>
        ""
    | .pointer =>
        "*"
    | .reference =>
        "&"
  constant ++ (names.resolve slot.type).text ++ mark

/-- The hash of a slot's spelling. -/
def spellingHash
    (slot : Slot)
    (names : NameTable) :
    UInt64 :=
  NameHash.ofText (slot.spelling names)

end Slot

namespace Signature

/--
The identifier of a result and parameters: the hash of the result, or zero without
one, mixed with the hash of each parameter in turn.
-/
def identify
    (names : NameTable)
    (result : Option Slot)
    (parameters : List Slot) :
    UInt64 :=
  parameters.foldl
    (fun identifier slot => NameHash.mix identifier (slot.spellingHash names))
    (match result with
      | some slot =>
          slot.spellingHash names
      | none =>
          0)

/-- The signature of a result and parameters. -/
def ofSlots
    (names : NameTable)
    (result : Option Slot)
    (parameters : List Slot) :
    Signature :=
  ⟨identify names result parameters, result, parameters⟩

/-- Whether the identifier is the one that result and parameters determine. -/
def isGenuine
    (signature : Signature)
    (names : NameTable) :
    Bool :=
  signature.identifier =
    identify names signature.result signature.parameters

end Signature

end SymbolDatabase
