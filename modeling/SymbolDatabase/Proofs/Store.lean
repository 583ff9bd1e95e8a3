import Mathlib.Data.List.Find
import SymbolDatabase.Proofs.Merge.Commutation

namespace SymbolDatabase

/-!
# The index of a store

A store that was filled from nothing lists, under each name, the positions of the symbols
with that name and no others, in order.  So what is looked up through the index is what a
walk over the symbols would find, and a symbol is added exactly if no symbol with the same
definition is there.
-/

namespace Shelf

/-- The index lists the positions of the symbols with each name, in order. -/
def Indexed
    (shelf : Shelf) :
    Prop :=
  ∀ name,
    shelf.index.positions name =
      (shelf.symbols.toList.zipIdx.filter fun listed => listed.1.name = name).map Prod.snd

namespace Indexed

variable {shelf : Shelf} {symbol : Symbol}

theorem empty :
    Shelf.empty.Indexed := by
  intro name
  simp [Shelf.empty]

/-- The index follows what is put at the end. -/
theorem push
    (indexed : shelf.Indexed)
    (symbol : Symbol) :
    (shelf.push symbol).Indexed := by
  intro name
  have before := indexed name
  by_cases same : symbol.name = name
  · simp [Shelf.push, List.zipIdx_append, before, same]
  · simp [Shelf.push, List.zipIdx_append, before, same, Ne.symm same]

/-- Under a name stand the positions of the symbols with that name. -/
theorem mem_positions_iff
    (indexed : shelf.Indexed)
    {name : NameHash}
    {position : Nat} :
    position ∈ shelf.index.positions name ↔
      ∃ symbol, shelf.symbols[position]? = some symbol ∧ symbol.name = name := by
  simp [indexed name, List.mem_zipIdx_iff_getElem?]

/-- Looking up a name finds what a walk over the symbols finds. -/
theorem lookup_eq_filter
    (indexed : shelf.Indexed)
    (name : NameHash) :
    shelf.lookup name = shelf.symbols.toList.filter fun symbol => symbol.name = name := by
  have found :
      ∀ listed ∈ shelf.symbols.toList.zipIdx.filter fun listed => listed.1.name = name,
        shelf.symbols[listed.2]? = some listed.1 := by
    intro listed member
    have there := List.mem_zipIdx_iff_getElem?.mp (List.mem_filter.mp member).1
    simpa using there
  calc shelf.lookup name
    _ = (shelf.symbols.toList.zipIdx.filter fun listed => listed.1.name = name).map
          Prod.fst := by
        rw [lookup, indexed name, List.filterMap_map, ← List.filterMap_eq_map']
        exact List.filterMap_congr found
    _ = (shelf.symbols.toList.zipIdx.map Prod.fst).filter
          fun symbol => symbol.name = name := by
        rw [List.filter_map]
        rfl
    _ = shelf.symbols.toList.filter fun symbol => symbol.name = name := by
        rw [List.zipIdx_map_fst]

/-- Through the index, the first position with a definition is found as by a walk over all. -/
theorem findSame?_eq_findIdx?
    (indexed : shelf.Indexed)
    (symbol : Symbol) :
    shelf.findSame? symbol =
      shelf.symbols.toList.findIdx? fun held => held.sameDefinition symbol := by
  rw [findSame?, indexed symbol.name, List.find?_map, List.find?_filter,
    List.findIdx?_eq_fst_find?_zipIdx]
  refine congrArg (Option.map Prod.snd) (List.find?_congr fun listed member => ?_)
  have there : shelf.symbols[listed.2]? = some listed.1 := by
    simpa using List.mem_zipIdx_iff_getElem?.mp member
  -- A symbol with the definition has the name, so nothing is missed among other names.
  have sameName : listed.1.sameDefinition symbol = true → listed.1.name = symbol.name :=
    Symbol.name_eq_of_sameDefinition
  rw [Bool.eq_iff_iff]
  simpa [there] using sameName

/-- No position is found for a symbol exactly if no symbol has its definition. -/
theorem findSame?_eq_none_iff
    (indexed : shelf.Indexed) :
    shelf.findSame? symbol = none ↔
      ∀ held ∈ shelf.symbols.toList, held.sameDefinition symbol = false := by
  rw [indexed.findSame?_eq_findIdx?, List.findIdx?_eq_none_iff]

end Indexed

end Shelf

namespace Store

/-- A store that gets a further symbol was made of that symbol as well. -/
theorem ofSymbols_concat
    (symbols : List Symbol)
    (symbol : Symbol) :
    ofSymbols (symbols ++ [symbol]) = (ofSymbols symbols).push symbol := by
  simp [ofSymbols]

/-- A shelf holds what was put on it, with an index that was made on the way. -/
theorem shelf_ofSymbols
    (symbols : List Symbol)
    (kind : Kind) :
    (ofSymbols symbols).shelf kind =
      ((ofSymbols symbols).symbols kind).foldl Shelf.push Shelf.empty := by
  induction symbols using List.reverseRecOn with
  | nil =>
      simp [ofSymbols, empty, shelf, Store.symbols, Shelf.empty]
  | append_singleton front last inductionHypothesis =>
      rw [ofSymbols_concat, push, shelf_setShelf, ← push, symbols_push]
      split
      next sameKind =>
        rw [← sameKind, List.foldl_append, ← inductionHypothesis]
        rfl
      next =>
        exact inductionHypothesis

/-- Stores made of symbols are equal if they list the same symbols of each kind. -/
theorem ofSymbols_eq_of_symbols
    {first second : List Symbol}
    (same : ∀ kind, (ofSymbols first).symbols kind = (ofSymbols second).symbols kind) :
    ofSymbols first = ofSymbols second := by
  have sameShelf : ∀ kind, (ofSymbols first).shelf kind = (ofSymbols second).shelf kind := by
    intro kind
    rw [shelf_ofSymbols, shelf_ofSymbols, same kind]
  refine congrArg Store.mk (Vector.ext fun place bound => ?_)
  obtain ⟨kind, -, isSlot⟩ := Kind.slot_surjective ⟨place, bound⟩
  have atSlot := sameShelf kind
  simp only [shelf, isSlot] at atSlot
  exact atSlot

/-- Every shelf of a store has its index. -/
def Indexed
    (store : Store) :
    Prop :=
  ∀ kind, (store.shelf kind).Indexed

namespace Indexed

variable {store : Store}

theorem empty :
    Store.empty.Indexed := by
  intro kind
  have isEmpty : Store.empty.shelf kind = Shelf.empty := by
    simp [Store.empty, shelf]
  rw [isEmpty]
  exact .empty

/-- The index follows what is put at the end. -/
theorem push
    (indexed : store.Indexed)
    (symbol : Symbol) :
    (store.push symbol).Indexed := by
  intro kind
  rw [Store.push, shelf_setShelf]
  split
  · exact (indexed symbol.kind).push symbol
  · exact indexed kind

/-- A store made of symbols has its index. -/
theorem ofSymbols
    (symbols : List Symbol) :
    (Store.ofSymbols symbols).Indexed := by
  have pushes :
      ∀ {store : Store}, store.Indexed → (symbols.foldl Store.push store).Indexed := by
    induction symbols with
    | nil =>
        exact id
    | cons symbol rest inductionHypothesis =>
        exact fun indexed => inductionHypothesis (indexed.push symbol)
  exact pushes .empty

/-- Adding a symbol keeps the index. -/
theorem add
    (indexed : store.Indexed)
    (symbol : Symbol) :
    (store.add symbol).2.Indexed := by
  rcases store.add_store symbol with same | pushed
  · rw [same]
    exact indexed
  · rw [pushed]
    exact indexed.push symbol

/-- Looking up a name finds what a walk over the symbols of the kind finds. -/
theorem lookup_eq_filter
    (indexed : store.Indexed)
    (kind : Kind)
    (name : NameHash) :
    store.lookup kind name =
      (store.symbols kind).filter fun symbol => symbol.name = name :=
  (indexed kind).lookup_eq_filter name

/-- A symbol is put down only where no symbol has its definition. -/
theorem add_store_of_not_same
    (indexed : store.Indexed)
    (symbol : Symbol) :
    (store.add symbol).2 = store ∨
      (store.add symbol).2 = store.push symbol ∧
        ∀ held ∈ store.symbols symbol.kind, held.sameDefinition symbol = false := by
  unfold Store.add
  simp only
  split
  next =>
    exact .inl rfl
  next missing =>
    exact .inr ⟨rfl, (indexed symbol.kind).findSame?_eq_none_iff.mp missing⟩

end Indexed

end Store

namespace Database

/-- Whatever a client does to a database, its store was made of symbols. -/
theorem Reachable.exists_store_eq
    {database : Database}
    (reachable : database.Reachable) :
    ∃ symbols, database.store = Store.ofSymbols symbols := by
  induction reachable with
  | empty =>
      exact ⟨[], rfl⟩
  | change change _ inductionHypothesis =>
      have kept :
          Edit.Preserves
            (fun database => ∃ symbols, database.store = Store.ofSymbols symbols)
            change.edit := by
        refine Change.preserves ?interns ?adds ?labels ?marks change
        case interns =>
          exact fun text => .withNames fun _ _ _ filled _ => filled
        case adds =>
          rintro symbol changed ⟨symbols, filled⟩
          rcases changed.store.add_store symbol with same | pushed
          · exact ⟨symbols, same.trans filled⟩
          · refine ⟨symbols ++ [symbol], pushed.trans ?_⟩
            rw [filled, Store.ofSymbols_concat]
        case labels =>
          exact fun source changed filled => filled
        case marks =>
          exact fun changed filled => filled
      exact kept _ inductionHypothesis
  | absorb _ _ accumulatedHypothesis _ =>
      unfold Edit.absorb
      split
      · exact accumulatedHypothesis
      · exact ⟨_, rfl⟩
  | merge _ merged _ =>
      unfold Database.merge at merged
      split at merged
      · cases merged
      · cases merged
        exact ⟨_, rfl⟩
  | restore restored =>
      obtain ⟨symbols, -, -, storeShape⟩ := Snapshot.restore_eq_ok restored
      exact ⟨symbols, storeShape⟩

/-- Whatever a client does to a database, its store has its index. -/
theorem Reachable.indexed
    {database : Database}
    (reachable : database.Reachable) :
    database.store.Indexed := by
  obtain ⟨symbols, filled⟩ := reachable.exists_store_eq
  rw [filled]
  exact .ofSymbols symbols

/-- Databases that list the same names and symbols, with one label and flag, are equal. -/
theorem Reachable.eq_of_same
    {first second : Database}
    (reachable : first.Reachable)
    (otherReachable : second.Reachable)
    (names : first.names = second.names)
    (symbols : ∀ kind, first.symbols kind = second.symbols kind)
    (source : first.source = second.source)
    (hasBaseTypes : first.hasBaseTypes = second.hasBaseTypes) :
    first = second := by
  obtain ⟨listed, filled⟩ := reachable.exists_store_eq
  obtain ⟨otherListed, otherFilled⟩ := otherReachable.exists_store_eq
  have store : first.store = second.store := by
    rw [filled, otherFilled]
    refine Store.ofSymbols_eq_of_symbols fun kind => ?_
    rw [← filled, ← otherFilled]
    exact symbols kind
  cases first
  cases second
  simp_all

/-- Adding a symbol to a database without repetitions adds none. -/
theorem Distinct.addSymbol
    {database : Database}
    (distinct : database.Distinct)
    (indexed : database.store.Indexed)
    (symbol : Symbol) :
    (Edit.addSymbol symbol database).2.Distinct := by
  intro kind
  rw [Edit.addSymbol_eq]
  rcases indexed.add_store_of_not_same symbol with same | ⟨pushed, noneSame⟩
  · simp only [Database.symbols, same]
    exact distinct kind
  · simp only [Database.symbols, pushed, Store.symbols_push]
    split
    next sameKind =>
      subst sameKind
      rw [List.pairwise_append]
      refine ⟨distinct _, List.pairwise_singleton _ _, ?_⟩
      intro held member added isAdded
      rw [List.mem_singleton.mp isAdded]
      exact noneSame held member
    next =>
      exact distinct kind

/-- The database without names and symbols has no repetitions. -/
theorem Distinct.empty :
    Database.empty.Distinct := by
  intro kind
  simp [Database.empty, Database.symbols]

/-- An operation on a database without repetitions adds none. -/
theorem Distinct.change
    {database : Database}
    (distinct : database.Distinct)
    (indexed : database.store.Indexed)
    (change : Change) :
    (change.apply database).Distinct := by
  have kept :
      Edit.Preserves (fun database => database.store.Indexed ∧ database.Distinct)
        change.edit := by
    refine Change.preserves ?interns ?adds ?labels ?marks change
    case interns =>
      exact fun text => .withNames fun _ _ _ holds _ => holds
    case adds =>
      exact fun symbol changed holds =>
        ⟨holds.1.add symbol, holds.2.addSymbol holds.1 symbol⟩
    case labels =>
      exact fun source changed holds => holds
    case marks =>
      exact fun changed holds => holds
  exact (kept database ⟨indexed, distinct⟩).2

/-- In a database without repetitions one definition stands at one position. -/
theorem Distinct.position_eq
    {database : Database}
    (distinct : database.Distinct)
    {kind : Kind}
    {position other : Nat}
    {symbol repeated : Symbol}
    (there : (database.symbols kind)[position]? = some symbol)
    (repeatedThere : (database.symbols kind)[other]? = some repeated)
    (same : symbol.sameDefinition repeated = true) :
    position = other := by
  have nodup := Merge.nodup_definitions distinct kind
  have sameDefinition := Symbol.sameDefinition_iff.mp same
  refine (List.getElem?_inj ?_ nodup).mp ?_
  · have inside := (List.getElem?_eq_some_iff.mp there).1
    simpa using inside
  · rw [List.getElem?_map, List.getElem?_map, there, repeatedThere, Option.map_some,
      Option.map_some, sameDefinition]

end Database

end SymbolDatabase
