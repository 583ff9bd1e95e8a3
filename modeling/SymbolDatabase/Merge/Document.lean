import SymbolDatabase.Merge.Holding
import SymbolDatabase.Snapshot.Document

namespace SymbolDatabase

/-!
# Conflict reports

A report names the symbol that two inputs define differently, and shows the
definition that was kept and the one that was rejected, each with the label of the
input that it came from.  It is told in a line, or as a JSON document.
-/

/-- One of the two definitions of a conflict. -/
structure ConflictSide where
  /-- The label of the input. -/
  source : String
  symbol : Symbol
  deriving Repr, DecidableEq

/-- Two inputs define the same symbol differently. -/
structure Conflict where
  kind : Kind
  name : Name
  identifier : Option UInt64
  kept : ConflictSide
  rejected : ConflictSide
  deriving Repr, DecidableEq

namespace Conflict

/-- The text of a report. -/
def message
    (conflict : Conflict) :
    String :=
  let identifier :=
    match conflict.identifier with
    | some identifier =>
        " uid=" ++ Hexadecimal.ofWord identifier
    | none =>
        ""
  conflict.kind.label ++ " " ++ Quoted.quote conflict.name.text ++ " [" ++
    Hexadecimal.ofWord conflict.name.hash ++ "]" ++ identifier ++
    " defined differently in " ++ conflict.kept.source ++ " and " ++
    conflict.rejected.source

end Conflict

namespace Merge

/-- The label of an input by its number, where inputs carry the given labels. -/
def labelOf
    (labels : List String)
    (input : Nat) :
    String :=
  labels.getD input ""

/-- One side of a clash, labelled by the first input that carried it. -/
def Holding.side
    (holding : Holding)
    (labels : List String) :
    ConflictSide :=
  ⟨labelOf labels (holding.origins.headD 0), holding.symbol⟩

/-- The report of a clash among symbols of a kind. -/
def Clash.report
    (clash : Clash)
    (kind : Kind)
    (names : NameTable)
    (labels : List String) :
    Conflict :=
  { kind := kind
    name := names.resolve clash.rejected.symbol.name
    identifier := clash.rejected.symbol.identifier?
    kept := clash.kept.side labels
    rejected := clash.rejected.side labels }

end Merge

open Json

/-- The value of a symbol in a report. -/
def Symbol.toValue
    (symbol : Symbol) :
    Value :=
  .object
    [ ("name", .ofNat symbol.name.toNat),
      ("parent", .ofNat symbol.parent.toNat),
      ("body", symbol.body.toValue) ]

/-- The value of one side of a conflict. -/
def ConflictSide.toValue
    (side : ConflictSide) :
    Value :=
  .object [("source", .text side.source), ("primitive", side.symbol.toValue)]

/-- The value of a conflict. -/
def Conflict.toValue
    (conflict : Conflict) :
    Value :=
  .object
    [ ("kind", .text conflict.kind.title),
      ("name", conflict.name.toValue),
      ( "unique_id",
        .ofOption (fun identifier => .ofNat identifier.toNat)
          conflict.identifier ),
      ("kept", conflict.kept.toValue),
      ("rejected", conflict.rejected.toValue) ]

end SymbolDatabase
