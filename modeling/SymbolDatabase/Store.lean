import SymbolDatabase.Symbol

namespace SymbolDatabase

/-!
# The symbol store

Symbols are kept on one shelf for each kind, in the order in which they were
added, and each shelf has an index from names to positions.  Nothing is ever
removed, so the handle of a symbol stays good.
-/

/-- The positions at which each name occurs on a shelf, in ascending order. -/
structure NameIndex where
  entries : List (NameHash × List Nat)
  deriving Repr, DecidableEq

namespace NameIndex

/-- The index of an empty shelf. -/
def empty : NameIndex :=
  ⟨[]⟩

/-- The positions at which a name occurs. -/
def positions
    (index : NameIndex)
    (name : NameHash) :
    List Nat :=
  (index.entries.lookup name).getD []

/-- Extend the entry of a name, or make one. -/
def insertEntry
    (name : NameHash)
    (position : Nat) :
    List (NameHash × List Nat) → List (NameHash × List Nat)
  | [] =>
      [(name, [position])]
  | (other, found) :: rest =>
      if other = name then
        (other, found ++ [position]) :: rest
      else
        (other, found) :: insertEntry name position rest

/-- Note that a name occurs at a position after all others. -/
def insert
    (index : NameIndex)
    (name : NameHash)
    (position : Nat) :
    NameIndex :=
  ⟨insertEntry name position index.entries⟩

/-- The index of an empty shelf has no positions. -/
@[simp]
theorem positions_empty
    (name : NameHash) :
    empty.positions name = [] :=
  rfl

/-- Extending an entry changes what is found under its name only. -/
theorem lookup_insertEntry
    (name query : NameHash)
    (position : Nat)
    (entries : List (NameHash × List Nat)) :
    ((insertEntry name position entries).lookup query).getD [] =
      if query = name then
        (entries.lookup query).getD [] ++ [position]
      else
        (entries.lookup query).getD [] := by
  induction entries with
  | nil =>
      by_cases same : query = name
      · simp [insertEntry, same]
      · simp [insertEntry, List.lookup_cons, same, beq_eq_false_iff_ne.2 same]
  | cons entry rest inductionHypothesis =>
      obtain ⟨other, found⟩ := entry
      by_cases here : other = name
      · subst here
        by_cases asked : query = other
        · simp [insertEntry, asked]
        · simp [insertEntry, List.lookup_cons, asked, beq_eq_false_iff_ne.2 asked]
      · by_cases asked : query = other
        · subst asked
          simp [insertEntry, here]
        · simpa [insertEntry, List.lookup_cons, here, beq_eq_false_iff_ne.2 asked]
            using inductionHypothesis

/-- A noted position is found under its name, behind the positions found before. -/
@[simp]
theorem positions_insert
    (index : NameIndex)
    (name query : NameHash)
    (position : Nat) :
    (index.insert name position).positions query =
      if query = name then
        index.positions query ++ [position]
      else
        index.positions query :=
  lookup_insertEntry name query position index.entries

end NameIndex

/-- The symbols of one kind, with their index. -/
structure Shelf where
  symbols : Array Symbol
  index : NameIndex
  deriving Repr, DecidableEq

namespace Shelf

/-- The shelf without symbols. -/
def empty : Shelf :=
  ⟨#[], NameIndex.empty⟩

/-- Put a symbol at the end. -/
def push
    (shelf : Shelf)
    (symbol : Symbol) :
    Shelf :=
  ⟨shelf.symbols.push symbol, shelf.index.insert symbol.name shelf.symbols.size⟩

/-- The symbols with a name, in order. -/
def lookup
    (shelf : Shelf)
    (name : NameHash) :
    List Symbol :=
  (shelf.index.positions name).filterMap fun position => shelf.symbols[position]?

/-- The first position that holds the same definition as a symbol. -/
def findSame?
    (shelf : Shelf)
    (symbol : Symbol) :
    Option Nat :=
  (shelf.index.positions symbol.name).find? fun position =>
    (shelf.symbols[position]?).any fun held => held.sameDefinition symbol

end Shelf

/-- Where a symbol is kept. -/
structure Handle where
  kind : Kind
  name : NameHash
  position : Nat
  deriving Repr, DecidableEq

/-- The symbols of a database, on one shelf for each kind. -/
structure Store where
  shelves : Vector Shelf 10
  deriving Repr, DecidableEq

namespace Store

/-- The store without symbols. -/
def empty : Store :=
  ⟨Vector.replicate 10 Shelf.empty⟩

/-- The shelf of a kind. -/
def shelf
    (store : Store)
    (kind : Kind) :
    Shelf :=
  store.shelves[kind.slot]

/-- Exchange the shelf of a kind. -/
def setShelf
    (store : Store)
    (kind : Kind)
    (shelf : Shelf) :
    Store :=
  ⟨store.shelves.set kind.slot shelf⟩

/-- The symbols of a kind, in order. -/
def symbols
    (store : Store)
    (kind : Kind) :
    List Symbol :=
  (store.shelf kind).symbols.toList

/-- All symbols, by kind and then in order. -/
def all
    (store : Store) :
    List Symbol :=
  Kind.all.flatMap store.symbols

/-- Put a symbol at the end of its kind, whether or not it is already there. -/
def push
    (store : Store)
    (symbol : Symbol) :
    Store :=
  store.setShelf symbol.kind ((store.shelf symbol.kind).push symbol)

/-- The store that results from putting symbols one after another. -/
def ofSymbols
    (symbols : List Symbol) :
    Store :=
  symbols.foldl push empty

/--
Add a symbol unless the same definition is already there.  The answer is the
handle of the symbol that stands for it, and whether that symbol is new.
-/
def add
    (store : Store)
    (symbol : Symbol) :
    (Handle × Bool) × Store :=
  let shelf := store.shelf symbol.kind
  match shelf.findSame? symbol with
  | some position =>
      ((⟨symbol.kind, symbol.name, position⟩, false), store)
  | none =>
      ((⟨symbol.kind, symbol.name, shelf.symbols.size⟩, true), store.push symbol)

/-- The symbol behind a handle. -/
def get?
    (store : Store)
    (handle : Handle) :
    Option Symbol :=
  (store.shelf handle.kind).symbols[handle.position]?

/-- The symbols of a kind with a name, in order. -/
def lookup
    (store : Store)
    (kind : Kind)
    (name : NameHash) :
    List Symbol :=
  (store.shelf kind).lookup name

/-- The first symbol of a kind with a name and an identifier. -/
def findCallable?
    (store : Store)
    (kind : Kind)
    (name : NameHash)
    (identifier : UInt64) :
    Option Symbol :=
  (store.lookup kind name).find? fun symbol =>
    symbol.identifier? = some identifier

/-- The symbols directly inside a scope.  The absent name encloses nothing. -/
def children
    (store : Store)
    (parent : NameHash) :
    List Symbol :=
  if parent = NameHash.absent then
    []
  else
    store.all.filter fun symbol => symbol.parent = parent

/-- How many symbols of a kind there are. -/
def count
    (store : Store)
    (kind : Kind) :
    Nat :=
  (store.shelf kind).symbols.size

/-- How many symbols there are. -/
def size
    (store : Store) :
    Nat :=
  Kind.all.foldr (fun kind total => store.count kind + total) 0

/-- The store without symbols has none of any kind. -/
@[simp]
theorem symbols_empty
    (kind : Kind) :
    empty.symbols kind = [] := by
  cases kind <;> rfl

/-- Exchanging the shelf of a kind leaves the others alone. -/
theorem shelf_setShelf
    (store : Store)
    (kind query : Kind)
    (shelf : Shelf) :
    (store.setShelf kind shelf).shelf query =
      if query = kind then shelf else store.shelf query := by
  by_cases same : query = kind
  · subst same
    simp [setShelf, Store.shelf]
  · have apart : kind.slot.val ≠ query.slot.val := fun sameSlot =>
      same (Kind.slot_injective (Fin.ext sameSlot)).symm
    simp [setShelf, Store.shelf, same, apart]

/-- A symbol goes to the end of its kind, and the other kinds stay as they are. -/
@[simp]
theorem symbols_push
    (store : Store)
    (symbol : Symbol)
    (kind : Kind) :
    (store.push symbol).symbols kind =
      if kind = symbol.kind then
        store.symbols kind ++ [symbol]
      else
        store.symbols kind := by
  by_cases same : kind = symbol.kind <;>
    simp [symbols, push, shelf_setShelf, Shelf.push, same]

/-- There are as many symbols of a kind as are listed. -/
theorem count_eq_length
    (store : Store)
    (kind : Kind) :
    store.count kind = (store.symbols kind).length := by
  simp [count, symbols]

/-- Each kind holds those of the symbols put into a store that are of that kind. -/
theorem symbols_foldl_push
    (store : Store)
    (added : List Symbol)
    (kind : Kind) :
    (added.foldl push store).symbols kind =
      store.symbols kind ++ added.filter fun symbol => symbol.kind = kind := by
  induction added generalizing store with
  | nil =>
      simp
  | cons symbol rest inductionHypothesis =>
      by_cases same : symbol.kind = kind
      · simp [inductionHypothesis, same]
      · simp [inductionHypothesis, same, Ne.symm same]

/-- Each kind of a store holds the symbols of that kind that the store was made of. -/
theorem symbols_ofSymbols
    (added : List Symbol)
    (kind : Kind) :
    (ofSymbols added).symbols kind =
      added.filter fun symbol => symbol.kind = kind := by
  simp [ofSymbols, symbols_foldl_push]

end Store

end SymbolDatabase
