import SymbolDatabase.Proofs.Growth
import SymbolDatabase.Proofs.Store

namespace SymbolDatabase

/-!
# A store answers as a walk over its symbols would

Symbols are looked up through the index of one shelf, and a symbol that is added is compared
with those of its kind and name only.  Yet whatever was put into a store, every answer is
the one that a walk over all symbols gives, in the order of the symbols, and nothing that
has the definition of an added symbol is missed.
-/

namespace Store

/-- One way to put a symbol into a store. -/
inductive Placement where
  /-- Unless the same definition is already there. -/
  | add (symbol : Symbol)
  /-- Whether or not it is already there. -/
  | push (symbol : Symbol)
  deriving Repr, DecidableEq

namespace Placement

/-- The store after a symbol was put into it. -/
def apply
    (store : Store) :
    Placement → Store
  | .add symbol =>
      (store.add symbol).2
  | .push symbol =>
      store.push symbol

end Placement

/-- The store that results from placing symbols one after another. -/
def filled
    (placements : List Placement) :
    Store :=
  placements.foldl Placement.apply empty

/-- A placement puts a symbol behind the others, or leaves the store as it is. -/
theorem exists_ofSymbols_apply
    (symbols : List Symbol)
    (placement : Placement) :
    ∃ placed, placement.apply (ofSymbols symbols) = ofSymbols placed := by
  cases placement with
  | add symbol =>
      rcases (ofSymbols symbols).add_store symbol with same | pushed
      · exact ⟨symbols, same⟩
      · exact ⟨symbols ++ [symbol], pushed.trans (ofSymbols_concat symbols symbol).symm⟩
  | push symbol =>
      exact ⟨symbols ++ [symbol], (ofSymbols_concat symbols symbol).symm⟩

/-- However a store was filled, it was made of symbols. -/
theorem exists_ofSymbols_filled
    (placements : List Placement) :
    ∃ symbols, filled placements = ofSymbols symbols := by
  induction placements using List.reverseRecOn with
  | nil =>
      exact ⟨[], rfl⟩
  | append_singleton front last inductionHypothesis =>
      obtain ⟨symbols, shape⟩ := inductionHypothesis
      rw [filled, List.foldl_append, ← filled, shape]
      exact exists_ofSymbols_apply symbols last

/-- The symbols of a kind that a store was made of have that kind. -/
theorem kind_of_mem_symbols_ofSymbols
    {symbols : List Symbol}
    {kind : Kind}
    {symbol : Symbol}
    (listed : symbol ∈ (ofSymbols symbols).symbols kind) :
    symbol.kind = kind := by
  rw [symbols_ofSymbols] at listed
  simpa using (List.mem_filter.mp listed).2

namespace Indexed

variable {store : Store}

/-- Adding a symbol answers as a walk over the symbols of its kind does. -/
theorem add_eq
    (indexed : store.Indexed)
    (symbol : Symbol) :
    store.add symbol =
      match (store.symbols symbol.kind).findIdx? fun held => held.sameDefinition symbol with
      | some position =>
          ((⟨symbol.kind, symbol.name, position⟩, false), store)
      | none =>
          ( (⟨symbol.kind, symbol.name, (store.symbols symbol.kind).length⟩, true),
            store.push symbol ) := by
  unfold Store.add
  simp only [(indexed symbol.kind).findSame?_eq_findIdx?, ← count_eq_length]
  rfl

end Indexed

/-- A walk over all symbols meets a definition first where a walk over its kind does. -/
theorem find?_all_sameDefinition
    {store : Store}
    (sorted : ∀ kind, ∀ held ∈ store.symbols kind, held.kind = kind)
    (symbol : Symbol) :
    (store.all.find? fun held => held.sameDefinition symbol) =
      (store.symbols symbol.kind).find? fun held => held.sameDefinition symbol := by
  rw [← Kind.filter_flatMap_all sorted symbol.kind, List.find?_filter]
  refine List.find?_congr fun held _ => ?_
  have sameKind : held.sameDefinition symbol = true → held.kind = symbol.kind :=
    Symbol.kind_eq_of_sameDefinition
  rw [Bool.eq_iff_iff]
  simpa using sameKind

/--
What adding a symbol answers and leaves, as a walk over all symbols of all kinds tells it.
The symbol is old exactly if the walk meets its definition; then the handle leads to where
the walk meets it first, and the store is left as it is.  A new symbol goes to the end of
its kind, where the handle leads.
-/
structure AddsAsScanned
    (store : Store)
    (symbol : Symbol)
    (handle : Handle)
    (isNew : Bool)
    (later : Store) :
    Prop where
  isOld :
    isNew = false ↔ ∃ held ∈ store.all, held.sameDefinition symbol = true
  old :
    isNew = false →
      later = store ∧
        ((store.symbols symbol.kind).findIdx? fun held => held.sameDefinition symbol) =
          some handle.position ∧
        ∃ held,
          store.Holds handle held ∧
            (store.all.find? fun held => held.sameDefinition symbol) = some held
  new :
    isNew = true →
      later.Holds handle symbol ∧
        ∀ kind,
          later.symbols kind =
            if kind = symbol.kind then
              store.symbols kind ++ [symbol]
            else
              store.symbols kind

/-- A store with its index, and each symbol among its kind, adds as a walk tells. -/
theorem Indexed.addsAsScanned
    {store : Store}
    (indexed : store.Indexed)
    (sorted : ∀ kind, ∀ held ∈ store.symbols kind, held.kind = kind)
    (symbol : Symbol) :
    store.AddsAsScanned symbol (store.add symbol).1.1 (store.add symbol).1.2
      (store.add symbol).2 := by
  have walks := find?_all_sameDefinition sorted symbol
  have byPosition :
      ((store.symbols symbol.kind).find? fun held => held.sameDefinition symbol) =
        ((store.symbols symbol.kind).findIdx? fun held => held.sameDefinition symbol).bind
          fun position => (store.symbols symbol.kind)[position]? :=
    List.find?_eq_bind_findIdx?_getElem?
  rw [indexed.add_eq]
  cases found : (store.symbols symbol.kind).findIdx? fun held => held.sameDefinition symbol with
  | some position =>
      obtain ⟨inside, same, -⟩ := List.findIdx?_eq_some_iff_getElem.mp found
      let held := (store.symbols symbol.kind)[position]
      have there : (store.symbols symbol.kind)[position]? = some held :=
        List.getElem?_eq_getElem inside
      have first : (store.all.find? fun held => held.sameDefinition symbol) = some held := by
        rw [walks, byPosition, found, Option.bind_some, there]
      refine ⟨?isOld, ?old, nofun⟩
      case isOld =>
        exact ⟨fun _ => ⟨held, List.mem_of_find?_eq_some first, same⟩, fun _ => rfl⟩
      case old =>
        intro _
        refine ⟨rfl, found, held, ⟨?_, ?_, ?_⟩, first⟩
        · rw [get?_eq_getElem?]
          exact there
        · exact Symbol.kind_eq_of_sameDefinition same
        · exact Symbol.name_eq_of_sameDefinition same
  | none =>
      refine ⟨?isOld, nofun, ?new⟩
      case isOld =>
        rw [byPosition, found, Option.bind_none, List.find?_eq_none] at walks
        constructor
        · nofun
        · rintro ⟨held, member, same⟩
          exact (walks held member same).elim
      case new =>
        intro _
        refine ⟨⟨?_, rfl, rfl⟩, symbols_push store symbol⟩
        rw [get?_eq_getElem?, symbols_push, if_pos rfl]
        simp

/--
However a store was filled, each answer is that of a walk over its symbols: looking up a
name gives the symbols of the kind with that name in order, finding an overload the first
of them with the identifier, and a scope its members among all symbols.  No position that
the index tells is out of range, every symbol stands under its kind, and a symbol is added
unless any symbol of any kind has its definition.
-/
theorem store_answers_as_scanned
    (placements : List Placement) :
    let store := filled placements
    (∀ kind name,
        store.lookup kind name =
          (store.symbols kind).filter fun symbol => symbol.name = name) ∧
      (∀ kind name identifier,
        store.findCallable? kind name identifier =
          (store.symbols kind).find? fun symbol =>
            symbol.name = name ∧ symbol.identifier? = some identifier) ∧
      (∀ parent,
        parent ≠ NameHash.absent →
          store.children parent = store.all.filter fun symbol => symbol.parent = parent) ∧
      (∀ kind name,
        ∀ position ∈ (store.shelf kind).index.positions name,
          ∃ symbol,
            (store.symbols kind)[position]? = some symbol ∧ symbol.name = name) ∧
      (∀ kind, ∀ symbol ∈ store.symbols kind, symbol.kind = kind) ∧
      ∀ symbol handle isNew later,
        store.add symbol = ((handle, isNew), later) →
          store.AddsAsScanned symbol handle isNew later := by
  intro store
  obtain ⟨symbols, shape⟩ := exists_ofSymbols_filled placements
  have indexed : store.Indexed := by
    simp only [store, shape]
    exact .ofSymbols symbols
  have sorted : ∀ kind, ∀ symbol ∈ store.symbols kind, symbol.kind = kind := by
    simp only [store, shape]
    exact fun kind symbol listed => kind_of_mem_symbols_ofSymbols listed
  refine ⟨indexed.lookup_eq_filter, ?overloads, ?members, ?positions, sorted, ?adds⟩
  case overloads =>
    intro kind name identifier
    rw [findCallable?, indexed.lookup_eq_filter, List.find?_filter]
    simp
  case members =>
    intro parent present
    rw [children, if_neg present]
  case positions =>
    intro kind name position listed
    obtain ⟨symbol, there, sameName⟩ := (indexed kind).mem_positions_iff.mp listed
    refine ⟨symbol, ?_, sameName⟩
    rw [Store.symbols, Array.getElem?_toList]
    exact there
  case adds =>
    intro symbol handle isNew later answered
    have adds := indexed.addsAsScanned sorted symbol
    rwa [answered] at adds

/-- A function inside a scope, told by its identifier and the name of its parameter. -/
def scopedFunction
    (identifier : UInt64)
    (parameter : NameHash) :
    Symbol :=
  ⟨7, 3, .function ⟨identifier, none, [⟨parameter, 5, .value, false, 0, 0⟩]⟩⟩

/-- Two overloads around a scope of their name, and the first of them once more. -/
def overloadPlacements : List Placement :=
  [ .add (scopedFunction 1 10),
    .add ⟨7, 0, .scope⟩,
    .add (scopedFunction 2 10),
    .push (scopedFunction 1 10) ]

/-- The overloads are found in order, and the second one is old under another parameter name. -/
theorem store_answers_as_scanned_overloads :
    let store := filled overloadPlacements
    store.lookup .function 7 =
        [scopedFunction 1 10, scopedFunction 2 10, scopedFunction 1 10] ∧
      store.findCallable? .function 7 2 = some (scopedFunction 2 10) ∧
      store.children 3 =
        [scopedFunction 1 10, scopedFunction 2 10, scopedFunction 1 10] ∧
      (store.add (scopedFunction 2 11)).2 = store ∧
      store.Holds (store.add (scopedFunction 2 11)).1.1 (scopedFunction 2 10) := by
  intro store
  obtain ⟨finds, findsOverload, findsMembers, -, -, adds⟩ :=
    store_answers_as_scanned overloadPlacements
  have isOld : (store.add (scopedFunction 2 11)).1.2 = false := by
    decide
  obtain ⟨unchanged, -, held, holds, first⟩ :=
    (adds (scopedFunction 2 11) _ _ _ rfl).old isOld
  obtain rfl : scopedFunction 2 10 = held :=
    Option.some.inj (Eq.trans (by decide) first)
  refine ⟨?_, ?_, ?_, unchanged, holds⟩
  · rw [finds]
    decide
  · rw [findsOverload]
    decide
  · rw [findsMembers 3 (by decide)]
    decide

end Store

end SymbolDatabase
