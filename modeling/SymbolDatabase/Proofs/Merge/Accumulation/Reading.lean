import SymbolDatabase.Proofs.Merge.Accumulation

namespace SymbolDatabase

/-!
# What a merge reads by position

A merge asks its store for candidates, and reads symbols, rows of origins and labels at the
positions that it is told.  Where the index of the store is that of its symbols and there
are as many rows as symbols, all of this is there, and what is found among the candidates
is what a walk over all symbols of the kind, each with its row, would find.
-/

namespace Merge

section Reads

-- The walks of the library over lists, where every read of a member has a result.

variable {α β : Type} {items : List α}

theorem filterM_eq_some
    {test : α → Option Bool}
    (check : α → Bool)
    (reads : ∀ item ∈ items, test item = some (check item)) :
    items.filterM test = some (items.filter check) := by
  have collects :
      ∀ found : List α,
        items.filterAuxM test found = some ((items.filter check).reverse ++ found) := by
    induction items with
    | nil =>
        intro found
        rfl
    | cons item rest inductionHypothesis =>
        intro found
        have here := reads item (by simp)
        have later := inductionHypothesis fun other member => reads other (by simp [member])
        cases checked : check item <;>
          simp [List.filterAuxM, here, checked, later]
  simp [List.filterM, collects]

theorem findM?_eq_some
    {test : α → Option Bool}
    (check : α → Bool)
    (reads : ∀ item ∈ items, test item = some (check item)) :
    items.findM? test = some (items.find? check) := by
  induction items with
  | nil =>
      rfl
  | cons item rest inductionHypothesis =>
      have here := reads item (by simp)
      have later := inductionHypothesis fun other member => reads other (by simp [member])
      cases checked : check item <;> simp [List.findM?, here, checked, later]

theorem anyM_eq_some
    {test : α → Option Bool}
    (check : α → Bool)
    (reads : ∀ item ∈ items, test item = some (check item)) :
    items.anyM test = some (items.any check) := by
  induction items with
  | nil =>
      rfl
  | cons item rest inductionHypothesis =>
      have here := reads item (by simp)
      have later := inductionHypothesis fun other member => reads other (by simp [member])
      cases checked : check item <;> simp [List.anyM, here, checked, later]

theorem mapM_eq_some
    {read : α → Option β}
    (value : α → β)
    (reads : ∀ item ∈ items, read item = some (value item)) :
    items.mapM read = some (items.map value) := by
  induction items with
  | nil =>
      rfl
  | cons item rest inductionHypothesis =>
      have here := reads item (by simp)
      have later := inductionHypothesis fun other member => reads other (by simp [member])
      simp [here, later]

end Reads

/-- The position of the holding that a symbol clashes with, if it does. -/
def rivalPosition?
    (input : Nat)
    (holdings : List Holding)
    (symbol : Symbol) :
    Option Nat :=
  let sameKey := fun holding : Holding => holding.symbol.sameKey symbol
  if (holdings.filter sameKey).any fun holding => input ∈ holding.origins then
    none
  else
    holdings.findIdx? sameKey

/-- The position of a rival is one of a holding. -/
theorem rivalPosition?_lt
    {input position : Nat}
    {holdings : List Holding}
    {symbol : Symbol}
    (isRival : rivalPosition? input holdings symbol = some position) :
    position < holdings.length := by
  unfold rivalPosition? at isRival
  dsimp only at isRival
  split at isRival
  · cases isRival
  · exact (List.findIdx?_eq_some_iff_getElem.mp isRival).1

/-- The rival of a symbol is what is held at the position of its rival. -/
theorem rival?_eq_bind
    (input : Nat)
    (holdings : List Holding)
    (symbol : Symbol) :
    rival? input holdings symbol =
      (rivalPosition? input holdings symbol).bind fun position => holdings[position]? := by
  unfold rival? rivalPosition?
  dsimp only
  split
  · rfl
  · rw [List.head?_filter, List.find?_eq_bind_findIdx?_getElem?]

namespace Accumulation

variable {state : Accumulation} {kind : Kind} {symbol : Symbol} {input position : Nat}

/-- The symbols of a kind, each with its row of origins. -/
def holdings
    (state : Accumulation)
    (kind : Kind) :
    List Holding :=
  List.zipWith Holding.mk (state.database.symbols kind) (state.rows kind)

/-- The positions of the symbols of a kind that a symbol is compared with. -/
def candidates
    (state : Accumulation)
    (kind : Kind)
    (symbol : Symbol) :
    List Nat :=
  ((state.database.symbols kind).zipIdx.filter fun listed =>
      listed.1.name = symbol.name &&
        (!kind.isCallable || listed.1.identifier? = symbol.identifier?)).map
    Prod.snd

/-- The index tells the candidates, and each of them is there to be read. -/
theorem candidates?_eq_some
    (indexed : state.database.store.Indexed)
    (kind : Kind)
    (symbol : Symbol) :
    state.candidates? kind symbol = some (state.candidates kind symbol) := by
  have positions :
      (state.database.store.shelf kind).index.positions symbol.name =
        ((state.database.symbols kind).zipIdx.filter fun listed =>
            listed.1.name = symbol.name).map Prod.snd :=
    indexed kind symbol.name
  unfold candidates? candidates
  rw [positions, filterM_eq_some (fun position =>
    !kind.isCallable ||
      (state.symbolAt? kind position).any fun held =>
        held.identifier? = symbol.identifier?)]
  · rw [List.filter_map, List.filter_filter]
    refine congrArg some (congrArg (List.map Prod.snd) (List.filter_congr ?_))
    intro listed member
    have there := List.mem_zipIdx_iff_getElem?.mp member
    simp [symbolAt?, there, Bool.and_comm]
  · intro position member
    obtain ⟨listed, found, rfl⟩ := List.mem_map.mp member
    have there := List.mem_zipIdx_iff_getElem?.mp (List.mem_filter.mp found).1
    cases kind.isCallable <;> simp [symbolAt?, there]

/-- A symbol of the kind is compared with those that have its key. -/
theorem candidates_eq
    (sorted : ∀ held ∈ state.database.symbols kind, held.kind = kind)
    (ofKind : symbol.kind = kind) :
    state.candidates kind symbol =
      ((state.database.symbols kind).zipIdx.filter fun listed =>
        listed.1.sameKey symbol).map Prod.snd := by
  refine congrArg (List.map Prod.snd) (List.filter_congr ?_)
  intro listed member
  have there := List.mem_zipIdx_iff_getElem?.mp member
  have heldKind := sorted listed.1 (List.mem_of_getElem? there)
  -- Symbols of the other kinds have no identifier.
  have identifiers :
      kind.isCallable = false → listed.1.identifier? = symbol.identifier? := by
    intro notCallable
    rw [Symbol.identifier?, Symbol.identifier?,
      Symbol.signature?_eq_none_iff.mpr (heldKind ▸ notCallable),
      Symbol.signature?_eq_none_iff.mpr (ofKind ▸ notCallable)]
  rw [Bool.eq_iff_iff]
  cases callable : kind.isCallable with
  | false =>
      simp [Symbol.sameKey, heldKind, ofKind, identifiers callable]
  | true =>
      simp [Symbol.sameKey, heldKind, ofKind]

/-- Among the candidates, a definition is found where a walk over the kind meets it first. -/
theorem findSame?_eq_some
    (indexed : state.database.store.Indexed)
    (sorted : ∀ held ∈ state.database.symbols kind, held.kind = kind)
    (ofKind : symbol.kind = kind) :
    state.findSame? kind symbol =
      some
        ((state.database.symbols kind).findIdx? fun held => held.sameDefinition symbol) := by
  unfold findSame?
  rw [candidates?_eq_some indexed, Option.bind_eq_bind, Option.bind_some,
    candidates_eq sorted ofKind,
    findM?_eq_some (fun position =>
      (state.symbolAt? kind position).any fun held => held.sameDefinition symbol)]
  · rw [List.find?_map, List.find?_filter, List.findIdx?_eq_fst_find?_zipIdx]
    refine congrArg some (congrArg (Option.map Prod.snd) (List.find?_congr ?_))
    intro listed member
    have there := List.mem_zipIdx_iff_getElem?.mp member
    -- A symbol with the definition has the key, so it is among the candidates.
    have sameKey :
        listed.1.sameDefinition symbol = true → listed.1.sameKey symbol = true :=
      fun same => Symbol.sameKey_iff.mpr (Symbol.key_eq_of_sameDefinition same)
    rw [Bool.eq_iff_iff]
    simpa [symbolAt?, there] using sameKey
  · intro position member
    obtain ⟨listed, found, rfl⟩ := List.mem_map.mp member
    have there := List.mem_zipIdx_iff_getElem?.mp (List.mem_filter.mp found).1
    simp [symbolAt?, there]

/-- As long as there are as many rows as symbols, each symbol is held with its row. -/
theorem heldSymbols_holdings
    (lockstep : (state.rows kind).length = (state.database.symbols kind).length) :
    heldSymbols (state.holdings kind) = state.database.symbols kind := by
  rw [heldSymbols, holdings, ← List.map_uncurry_zip_eq_zipWith, List.map_map]
  exact List.map_fst_zip lockstep.ge

/-- What is held at a position is the symbol there with the row there. -/
theorem getElem?_holdings_eq_some_iff
    {holding : Holding} :
    (state.holdings kind)[position]? = some holding ↔
      state.symbolAt? kind position = some holding.symbol ∧
        state.rowAt? kind position = some holding.origins := by
  rw [holdings, List.getElem?_zipWith_eq_some]
  constructor
  · rintro ⟨held, row, there, rowThere, rfl⟩
    exact ⟨there, rowThere⟩
  · rintro ⟨there, rowThere⟩
    exact ⟨_, _, there, rowThere, rfl⟩

/-- Among the candidates, a rival is found where it stands among all that is held. -/
theorem findRival?_eq_some
    (indexed : state.database.store.Indexed)
    (sorted : ∀ held ∈ state.database.symbols kind, held.kind = kind)
    (lockstep : (state.rows kind).length = (state.database.symbols kind).length)
    (ofKind : symbol.kind = kind)
    (input : Nat) :
    state.findRival? kind input symbol =
      some (rivalPosition? input (state.holdings kind) symbol) := by
  have candidates :
      state.candidates kind symbol =
        ((state.holdings kind).zipIdx.filter fun listed =>
          listed.1.symbol.sameKey symbol).map Prod.snd := by
    rw [candidates_eq sorted ofKind, ← heldSymbols_holdings lockstep, heldSymbols,
      List.zipIdx_map, List.filter_map, List.map_map]
    rfl
  have contributed :
      (state.candidates kind symbol).any (fun position =>
          ((state.holdings kind)[position]?).any fun holding => input ∈ holding.origins) =
        ((state.holdings kind).filter fun holding => holding.symbol.sameKey symbol).any
          fun holding => input ∈ holding.origins := by
    rw [candidates]
    conv_rhs => rw [← List.zipIdx_map_fst 0 (state.holdings kind)]
    rw [List.filter_map, List.any_map, List.any_map, Bool.eq_iff_iff, List.any_eq_true,
      List.any_eq_true]
    refine exists_congr fun listed => and_congr_right fun member => ?_
    have there := List.mem_zipIdx_iff_getElem?.mp (List.mem_filter.mp member).1
    simp [there]
  have first :
      (state.candidates kind symbol).head? =
        (state.holdings kind).findIdx? fun holding => holding.symbol.sameKey symbol := by
    rw [candidates, List.head?_map, List.head?_filter, List.findIdx?_eq_fst_find?_zipIdx]
  unfold findRival? rivalPosition?
  rw [candidates?_eq_some indexed, Option.bind_eq_bind, Option.bind_some,
    anyM_eq_some (fun position =>
      ((state.holdings kind)[position]?).any fun holding => input ∈ holding.origins),
    contributed, first]
  · rfl
  · intro position member
    rw [candidates] at member
    obtain ⟨listed, found, rfl⟩ := List.mem_map.mp member
    have there := List.mem_zipIdx_iff_getElem?.mp (List.mem_filter.mp found).1
    have rowThere := (getElem?_holdings_eq_some_iff.mp there).2
    simp [rowThere, there]

/-- The moment after an input was noted in the row at a position. -/
def credited
    (state : Accumulation)
    (kind : Kind)
    (input position : Nat) :
    Accumulation :=
  { state with
    rows :=
      Function.update state.rows kind
        ((state.rows kind).modify position (noteOrigin input)) }

/-- Where there is a row, an input can be noted in it. -/
theorem credit?_eq_some
    (inside : position < (state.rows kind).length)
    (input : Nat) :
    state.credit? kind input position = some (state.credited kind input position) := by
  have there : state.rowAt? kind position = some (state.rows kind)[position] :=
    List.getElem?_eq_getElem inside
  simp [credit?, credited, there, List.modify_eq_set_getElem?, inside]

/-- The moment after a clash was reported. -/
def reported
    (state : Accumulation)
    (kind : Kind)
    (clash : Clash) :
    Accumulation :=
  { state with
    conflicts :=
      state.conflicts ++ [clash.report kind state.database.names state.labels] }

/-- A clash can be reported with what is held if the origins of that are labelled. -/
theorem report?_eq_some
    {kept : Holding}
    (held : (state.holdings kind)[position]? = some kept)
    (founded : kept.origins ≠ [])
    (known : ∀ origin ∈ kept.origins, origin < state.labels.length)
    (inside : input < state.labels.length)
    (symbol : Symbol) :
    state.report? kind input position symbol =
      some (state.reported kind ⟨kept, ⟨symbol, [input]⟩⟩) := by
  obtain ⟨there, rowThere⟩ := getElem?_holdings_eq_some_iff.mp held
  obtain ⟨founder, later, row⟩ := List.exists_cons_of_ne_nil founded
  have founderKnown : founder < state.labels.length := known founder (by simp [row])
  simp [report?, reported, there, rowThere, row, founderKnown, inside, Clash.report,
    Holding.side, labelOf]

variable (state kind input position) (other : Kind)

/-- Crediting leaves the symbols alone. -/
theorem database_credited :
    (state.credited kind input position).database = state.database :=
  rfl

/-- Crediting changes one row of the kind at hand. -/
theorem rows_credited :
    (state.credited kind input position).rows other =
      if other = kind then
        (state.rows other).modify position (noteOrigin input)
      else
        state.rows other := by
  by_cases same : other = kind
  · subst same
    simp [credited]
  · simp [credited, same]

/-- Crediting keeps the number of rows. -/
theorem length_rows_credited :
    ((state.credited kind input position).rows other).length =
      (state.rows other).length := by
  rw [rows_credited]
  split <;> simp

/-- Appending adds a row to the kind at hand. -/
theorem rows_append
    (symbol : Symbol) :
    (state.append kind input symbol).rows other =
      if other = kind then state.rows other ++ [[input]] else state.rows other := by
  by_cases same : other = kind
  · subst same
    simp [append]
  · simp [append, same]

/-- Appending adds a symbol to its own kind. -/
theorem symbols_append
    (symbol : Symbol) :
    (state.append kind input symbol).database.symbols other =
      if other = symbol.kind then
        state.database.symbols other ++ [symbol]
      else
        state.database.symbols other :=
  Store.symbols_push state.database.store symbol other

end Accumulation

end Merge

end SymbolDatabase
