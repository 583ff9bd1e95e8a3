import SymbolDatabase.Database
import SymbolDatabase.Merge.Document

namespace SymbolDatabase

/-!
# Merging databases

All names are united first, which fails when a hash stands for two texts.  Then the
symbols of each kind are merged on their own, and the clashes become conflict
reports.  Merging a list of databases starts from nothing; absorbing one more into
an accumulation treats all that was accumulated as coming from one input.
-/

/-- A merged database and the conflicts met. -/
structure MergeOutcome where
  database : Database
  conflicts : List Conflict
  deriving Repr, DecidableEq

namespace MergeOutcome

/-- Whether no inputs disagreed. -/
def isClean
    (outcome : MergeOutcome) :
    Bool :=
  outcome.conflicts.isEmpty

end MergeOutcome

namespace Merge

/-- What conflict reports call an input. -/
def inputLabel
    (input : Nat)
    (database : Database) :
    String :=
  database.source.getD ("input #" ++ toString input)

/-- The symbols of a kind, held as coming from one input. -/
def holdingsOf
    (database : Database)
    (kind : Kind) :
    List Holding :=
  (database.symbols kind).map fun symbol => ⟨symbol, [0]⟩

/-- The symbols of each kind and the clashes among them, when inputs are taken in. -/
def symbolsAndClashes
    (start : Nat)
    (held : Kind → List Holding)
    (inputs : List Database)
    (kind : Kind) :
    List Holding × List Clash :=
  takeInAll start (inputs.map fun input => input.symbols kind) (held kind)

/-- The store and the conflicts that result from taking in inputs. -/
def storeAndConflicts
    (start : Nat)
    (held : Kind → List Holding)
    (inputs : List Database)
    (names : NameTable)
    (labels : List String) :
    Store × List Conflict :=
  let results := fun kind => symbolsAndClashes start held inputs kind
  ( Store.ofSymbols
      (Kind.all.flatMap fun kind => (results kind).1.map Holding.symbol),
    Kind.all.flatMap fun kind =>
      (results kind).2.map fun clash => clash.report kind names labels )

end Merge

namespace Database

/-- Merge databases, which are numbered from zero, into a fresh one. -/
def merge
    (inputs : List Database) :
    Except Error MergeOutcome :=
  match NameTable.empty.absorb (inputs.flatMap fun input => input.names.names) with
  | (.error error, _) =>
      .error error
  | (.ok (), names) =>
      let labels :=
        inputs.zipIdx.map fun (input, number) => Merge.inputLabel number input
      let (store, conflicts) :=
        Merge.storeAndConflicts 0 (fun _ => []) inputs names labels
      .ok
        { database :=
            { names := names
              store := store
              source := none
              hasBaseTypes := inputs.any Database.hasBaseTypes }
          conflicts := conflicts }

end Database

namespace Edit

/--
Merge one more database into the one at hand.  When the names cannot be united,
those that could be bound before stay bound, and nothing else changes.
-/
def absorb
    (input : Database) :
    Edit (List Conflict) :=
  fun accumulated =>
    match accumulated.names.absorb input.names.names with
    | (.error error, names) =>
        (.error error, { accumulated with names := names })
    | (.ok (), names) =>
        let labels :=
          [accumulated.source.getD "accumulated", Merge.inputLabel 1 input]
        let (store, conflicts) :=
          Merge.storeAndConflicts 1 (Merge.holdingsOf accumulated) [input] names
            labels
        ( .ok conflicts,
          { names := names
            store := store
            source := accumulated.source
            hasBaseTypes := accumulated.hasBaseTypes || input.hasBaseTypes } )

end Edit

end SymbolDatabase
