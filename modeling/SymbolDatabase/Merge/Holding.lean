import SymbolDatabase.Symbol

namespace SymbolDatabase

/-!
# Merging the symbols of one kind

The symbols of one kind are taken in input by input.  A symbol whose definition is
already held collapses into the first holding of it.  The others of the same input
are then judged against the collapsed holdings, before any of them is admitted: a
symbol clashes with the first holding of its key, unless there is none or its own
input already contributed to the key.  A symbol that clashes is rejected, and every
other one is admitted.
-/

namespace Merge

/-- A symbol of the output and the inputs that carried its definition, first one first. -/
structure Holding where
  symbol : Symbol
  origins : List Nat
  deriving Repr, DecidableEq

/-- Note that an input carried the definition. -/
def Holding.credit
    (holding : Holding)
    (input : Nat) :
    Holding :=
  if input ∈ holding.origins then
    holding
  else
    { holding with origins := holding.origins ++ [input] }

/-- A rejected symbol and the holding that it clashes with. -/
structure Clash where
  kept : Holding
  rejected : Holding
  deriving Repr, DecidableEq

/-- Credit an input with the first holding of a definition, if there is one. -/
def creditFirst?
    (input : Nat)
    (symbol : Symbol) :
    List Holding → Option (List Holding)
  | [] =>
      none
  | holding :: rest =>
      if holding.symbol.sameDefinition symbol then
        some (holding.credit input :: rest)
      else
        (creditFirst? input symbol rest).map (holding :: ·)

/-- Collapse the symbols that are already held, and answer the others in order. -/
def collapse
    (input : Nat) :
    List Symbol → List Holding → List Holding × List Symbol
  | [], holdings =>
      (holdings, [])
  | symbol :: rest, holdings =>
      match creditFirst? input symbol holdings with
      | some credited =>
          collapse input rest credited
      | none =>
          let (collapsed, pending) := collapse input rest holdings
          (collapsed, symbol :: pending)

/-- The holding that a symbol clashes with, if it does. -/
def rival?
    (input : Nat)
    (holdings : List Holding)
    (symbol : Symbol) :
    Option Holding :=
  let candidates := holdings.filter fun holding => holding.symbol.sameKey symbol
  if candidates.any fun holding => input ∈ holding.origins then
    none
  else
    candidates.head?

/-- The clash of a symbol, if it has one. -/
def clash?
    (input : Nat)
    (holdings : List Holding)
    (symbol : Symbol) :
    Option Clash :=
  (rival? input holdings symbol).map fun kept => ⟨kept, ⟨symbol, [input]⟩⟩

/-- Take in the symbols of one input, and answer the clashes among them. -/
def takeIn
    (input : Nat)
    (symbols : List Symbol)
    (holdings : List Holding) :
    List Holding × List Clash :=
  let (collapsed, pending) := collapse input symbols holdings
  let admitted :=
    pending.filter fun symbol => (rival? input collapsed symbol).isNone
  ( collapsed ++ admitted.map fun symbol => ⟨symbol, [input]⟩,
    pending.filterMap (clash? input collapsed) )

/-- Take in several inputs, numbered from a start. -/
def takeInAll
    (start : Nat) :
    List (List Symbol) → List Holding → List Holding × List Clash
  | [], holdings =>
      (holdings, [])
  | symbols :: rest, holdings =>
      let (taken, clashes) := takeIn start symbols holdings
      let (final, laterClashes) := takeInAll (start + 1) rest taken
      (final, clashes ++ laterClashes)

end Merge

end SymbolDatabase
