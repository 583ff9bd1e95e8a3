import Mathlib.Logic.Function.Basic
import SymbolDatabase.Proofs.Closed
import SymbolDatabase.Proofs.Merge.Attribution
import SymbolDatabase.Proofs.Store.Scan

namespace SymbolDatabase

/-!
# Merging with the origins kept apart

In memory a merge does not hold symbols together with their origins.  It puts the symbols
into a store, and beside the store it keeps a table of origins for each kind, with one row
for each symbol, by position.  Both grow on their own, and what the index of the store
tells is used as a position in either.  This module takes such a merge apart into steps.  A
step that asks for something at a position where nothing is has no result.
-/

namespace Merge

/-- Something that a merge has to do. -/
inductive Task where
  /-- Unite names. -/
  | unite (names : List Name)
  /-- Compare symbols of an input with what is held; the others so far are pending. -/
  | compare (kind : Kind) (input : Nat) (rest pending : List Symbol)
  /-- Append pending symbols, or report that they clash with what is at a position. -/
  | conclude (kind : Kind) (input : Nat) (rest : List (Symbol × Option Nat))
  /-- Note whether an input has the base types. -/
  | mark (hasBaseTypes : Bool)
  deriving Repr, DecidableEq

/-- A merge at some moment: what it has come to, and what it still has to do. -/
structure Accumulation where
  database : Database
  /-- The origins of the symbols of a kind, by the positions of the symbols. -/
  rows : Kind → List (List Nat)
  labels : List String
  conflicts : List Conflict
  agenda : List Task
  /-- Why the merge was given up. -/
  refusal : Option Error

/-- Note an origin in a row, unless it is there. -/
def noteOrigin
    (input : Nat)
    (row : List Nat) :
    List Nat :=
  if input ∈ row then row else row ++ [input]

/-- The tasks of merging the symbols of a kind, for inputs numbered from a start. -/
def turns
    (start : Nat)
    (inputs : List Database)
    (kind : Kind) :
    List Task :=
  (inputs.zipIdx start).map fun (input, number) =>
    .compare kind number (input.symbols kind) []

/-- The tasks of a merge: names first, then all inputs kind by kind. -/
def agendaOf
    (start : Nat)
    (inputs : List Database) :
    List Task :=
  .unite (inputs.flatMap fun input => input.names.names) ::
    (Kind.all.flatMap (turns start inputs) ++ [.mark (inputs.any Database.hasBaseTypes)])

namespace Accumulation

/-- A merge of several inputs at its beginning. -/
def ofInputs
    (inputs : List Database) :
    Accumulation :=
  { database := Database.empty
    rows := fun _ => []
    labels := Merge.labels inputs
    conflicts := []
    agenda := agendaOf 0 inputs
    refusal := none }

/-- Absorbing an input at its beginning: every symbol at hand comes from input zero. -/
def ofAccumulated
    (accumulated input : Database) :
    Accumulation :=
  { database := accumulated
    rows := fun kind => List.replicate (accumulated.store.count kind) [0]
    labels := [accumulated.source.getD "accumulated", inputLabel 1 input]
    conflicts := []
    agenda := agendaOf 1 [input]
    refusal := none }

/-- The symbol of a kind at a position. -/
def symbolAt?
    (state : Accumulation)
    (kind : Kind)
    (position : Nat) :
    Option Symbol :=
  (state.database.symbols kind)[position]?

/-- The row of origins of a kind at a position. -/
def rowAt?
    (state : Accumulation)
    (kind : Kind)
    (position : Nat) :
    Option (List Nat) :=
  (state.rows kind)[position]?

/--
The positions under the name of a symbol; among functions and methods only those with its
identifier.
-/
def candidates?
    (state : Accumulation)
    (kind : Kind)
    (symbol : Symbol) :
    Option (List Nat) :=
  ((state.database.store.shelf kind).index.positions symbol.name).filterM fun position =>
    if kind.isCallable then do
      let held ← state.symbolAt? kind position
      return held.identifier? = symbol.identifier?
    else
      return true

/-- The candidate that has the definition of a symbol, if one has it. -/
def findSame?
    (state : Accumulation)
    (kind : Kind)
    (symbol : Symbol) :
    Option (Option Nat) := do
  let candidates ← state.candidates? kind symbol
  candidates.findM? fun position => do
    let held ← state.symbolAt? kind position
    return held.sameDefinition symbol

/-- The candidate that a symbol of an input clashes with, if it clashes. -/
def findRival?
    (state : Accumulation)
    (kind : Kind)
    (input : Nat)
    (symbol : Symbol) :
    Option (Option Nat) := do
  let candidates ← state.candidates? kind symbol
  let contributed ← candidates.anyM fun position => do
    let row ← state.rowAt? kind position
    return decide (input ∈ row)
  return if contributed then none else candidates.head?

/-- Note an input in the row at a position. -/
def credit?
    (state : Accumulation)
    (kind : Kind)
    (input position : Nat) :
    Option Accumulation := do
  let row ← state.rowAt? kind position
  let rows := (state.rows kind).set position (noteOrigin input row)
  return { state with rows := Function.update state.rows kind rows }

/-- Put a symbol at the end of its own kind, and a row at the end of the kind at hand. -/
def append
    (state : Accumulation)
    (kind : Kind)
    (input : Nat)
    (symbol : Symbol) :
    Accumulation :=
  { state with
    database := { state.database with store := state.database.store.push symbol }
    rows := Function.update state.rows kind (state.rows kind ++ [[input]]) }

/-- Report that a symbol of an input clashes with what is at a position. -/
def report?
    (state : Accumulation)
    (kind : Kind)
    (input position : Nat)
    (symbol : Symbol) :
    Option Accumulation := do
  let row ← state.rowAt? kind position
  let founder ← row[0]?
  let keptLabel ← state.labels[founder]?
  let kept ← state.symbolAt? kind position
  let label ← state.labels[input]?
  let conflict :=
    { kind := kind
      name := state.database.names.resolve symbol.name
      identifier := symbol.identifier?
      kept := ⟨keptLabel, kept⟩
      rejected := ⟨label, symbol⟩ }
  return { state with conflicts := state.conflicts ++ [conflict] }

/-- Have something to do before everything else. -/
def plan
    (task : Task)
    (state : Accumulation) :
    Accumulation :=
  { state with agenda := task :: state.agenda }

/-- Take the first step of a task that was taken off the agenda. -/
def perform?
    (state : Accumulation) :
    Task → Option Accumulation
  | .unite [] =>
      some state
  | .unite (name :: rest) =>
      match state.database.names.bind name.hash name.text with
      | .ok (_, names) =>
          some (plan (.unite rest)
            { state with database := { state.database with names := names } })
      | .error error =>
          some { state with agenda := [], refusal := some error }
  | .compare kind input [] pending => do
      let rivals ← pending.mapM (state.findRival? kind input)
      return plan (.conclude kind input (pending.zip rivals)) state
  | .compare kind input (symbol :: rest) pending => do
      let same ← state.findSame? kind symbol
      match same with
      | some position =>
          let credited ← state.credit? kind input position
          return plan (.compare kind input rest pending) credited
      | none =>
          return plan (.compare kind input rest (pending ++ [symbol])) state
  | .conclude _ _ [] =>
      some state
  | .conclude kind input ((symbol, none) :: rest) =>
      some (plan (.conclude kind input rest) (state.append kind input symbol))
  | .conclude kind input ((symbol, some position) :: rest) => do
      let reported ← state.report? kind input position symbol
      return plan (.conclude kind input rest) reported
  | .mark hasBaseTypes =>
      some
        { state with
          database :=
            { state.database with
              hasBaseTypes := state.database.hasBaseTypes || hasBaseTypes } }

/-- Take a step, if there is one to take. -/
def advance?
    (state : Accumulation) :
    Option Accumulation :=
  match state.agenda with
  | [] =>
      some state
  | task :: later =>
      perform? { state with agenda := later } task

/-- What a merge comes to after some steps. -/
def after?
    (state : Accumulation) :
    Nat → Option Accumulation
  | 0 =>
      some state
  | steps + 1 =>
      (state.after? steps).bind advance?

/-- What a merge that has nothing left to do answers. -/
def answer
    (state : Accumulation) :
    Except Error (List Conflict) :=
  match state.refusal with
  | some error =>
      .error error
  | none =>
      .ok state.conflicts

end Accumulation

end Merge

end SymbolDatabase
