import SymbolDatabase.Proofs.Merge.Inputs

namespace SymbolDatabase

/-!
# Keys do not interfere

Whatever a merge does with a symbol, it only looks at symbols of the same key.  So a merge
of what the inputs have under one key is that part of the merge of all they have: step by
step, taking in an input and then looking at one key is looking at that key first.
-/

namespace Merge

variable (key : Kind × NameHash × Option UInt64)

/-- The symbols with a key. -/
def symbolsWith
    (symbols : List Symbol) :
    List Symbol :=
  symbols.filter fun symbol => symbol.key = key

/-- The holdings whose symbols have a key. -/
def holdingsWith
    (holdings : List Holding) :
    List Holding :=
  holdings.filter fun holding => holding.symbol.key = key

/-- The clashes about symbols with a key. -/
def clashesWith
    (clashes : List Clash) :
    List Clash :=
  clashes.filter fun clash => clash.rejected.symbol.key = key

variable {key}

/-- A symbol is credited to a holding of its own key, so the others may be left out. -/
theorem creditFirst?_holdingsWith
    {symbol : Symbol}
    (sameKey : symbol.key = key)
    (input : Nat)
    (holdings : List Holding) :
    creditFirst? input symbol (holdingsWith key holdings) =
      (creditFirst? input symbol holdings).map (holdingsWith key) := by
  induction holdings with
  | nil =>
      rfl
  | cons holding rest inductionHypothesis =>
      unfold holdingsWith at inductionHypothesis ⊢
      by_cases same : holding.symbol.sameDefinition symbol = true
      · have holdingKey : holding.symbol.key = key :=
          (Symbol.key_eq_of_sameDefinition same).trans sameKey
        simp [creditFirst?, same, holdingKey]
      · by_cases holdingKey : holding.symbol.key = key
        · simp [creditFirst?, same, holdingKey, inductionHypothesis,
            Function.comp_def]
        · simp [creditFirst?, same, holdingKey, inductionHypothesis,
            Function.comp_def]

/-- Crediting a symbol of another key changes nothing under a key. -/
theorem holdingsWith_creditFirst?
    {input : Nat}
    {symbol : Symbol}
    {holdings credited : List Holding}
    (otherKey : symbol.key ≠ key)
    (found : creditFirst? input symbol holdings = some credited) :
    holdingsWith key credited = holdingsWith key holdings := by
  obtain ⟨front, holding, behind, rfl, same, rfl⟩ := creditFirst?_eq_some found
  have holdingKey : holding.symbol.key ≠ key := by
    rw [Symbol.key_eq_of_sameDefinition same]
    exact otherKey
  simp [holdingsWith, holdingKey]

/-- Collapsing the symbols of a key does what collapsing all symbols does under the key. -/
theorem collapse_symbolsWith
    (input : Nat)
    (symbols : List Symbol)
    (holdings : List Holding) :
    collapse input (symbolsWith key symbols) (holdingsWith key holdings) =
      (holdingsWith key (collapse input symbols holdings).1,
        symbolsWith key (collapse input symbols holdings).2) := by
  induction symbols generalizing holdings with
  | nil =>
      rfl
  | cons symbol rest inductionHypothesis =>
      by_cases sameKey : symbol.key = key
      · have credit := creditFirst?_holdingsWith sameKey input holdings
        have here :
            symbolsWith key (symbol :: rest) = symbol :: symbolsWith key rest := by
          simp [symbolsWith, sameKey]
        cases found : creditFirst? input symbol holdings with
        | none =>
            rw [found] at credit
            simp only [Option.map_none] at credit
            simp only [here, collapse, credit, found, inductionHypothesis holdings]
            simp [symbolsWith, sameKey]
        | some credited =>
            rw [found] at credit
            simp only [Option.map_some] at credit
            simp only [here, collapse, credit, found, inductionHypothesis credited]
      · have here :
            symbolsWith key (symbol :: rest) = symbolsWith key rest := by
          simp [symbolsWith, sameKey]
        -- The symbol may be credited, but only to a holding that is left out as well.
        cases found : creditFirst? input symbol holdings with
        | none =>
            simp only [here, collapse, found, inductionHypothesis holdings]
            simp [symbolsWith, sameKey]
        | some credited =>
            rw [here, ← holdingsWith_creditFirst? sameKey found,
              inductionHypothesis credited]
            simp only [collapse, found]

/-- The rival of a symbol has its key, so the holdings of other keys may be left out. -/
theorem rival?_holdingsWith
    {symbol : Symbol}
    (sameKey : symbol.key = key)
    (input : Nat)
    (holdings : List Holding) :
    rival? input (holdingsWith key holdings) symbol = rival? input holdings symbol := by
  have candidates :
      ((holdingsWith key holdings).filter fun holding =>
          holding.symbol.sameKey symbol) =
        holdings.filter fun holding => holding.symbol.sameKey symbol := by
    unfold holdingsWith
    rw [List.filter_filter]
    apply List.filter_congr
    intro holding _
    rw [Bool.eq_iff_iff, Bool.and_eq_true, Symbol.sameKey_iff, decide_eq_true_eq,
      sameKey]
    exact and_self_iff
  unfold rival?
  rw [candidates]

/-- Taking in the symbols of a key does what taking in all symbols does under the key. -/
theorem takeIn_symbolsWith
    (input : Nat)
    (symbols : List Symbol)
    (holdings : List Holding) :
    takeIn input (symbolsWith key symbols) (holdingsWith key holdings) =
      (holdingsWith key (takeIn input symbols holdings).1,
        clashesWith key (takeIn input symbols holdings).2) := by
  unfold takeIn
  rw [collapse_symbolsWith]
  obtain ⟨collapsed, pending⟩ := collapse input symbols holdings
  refine Prod.ext ?_ ?_
  · have admitted :
        ((symbolsWith key pending).filter fun symbol =>
            (rival? input (holdingsWith key collapsed) symbol).isNone) =
          symbolsWith key
            (pending.filter fun symbol =>
              (rival? input collapsed symbol).isNone) := by
      unfold symbolsWith
      rw [List.filter_filter, List.filter_filter]
      apply List.filter_congr
      intro symbol _
      by_cases sameKey : symbol.key = key
      · simp [sameKey, rival?_holdingsWith sameKey]
      · simp [sameKey]
    simp only [admitted]
    simp [holdingsWith, symbolsWith, List.filter_map, Function.comp_def]
  · have clashKey :
        ∀ symbol,
          (clash? input collapsed symbol).filter
              (fun clash => clash.rejected.symbol.key = key) =
            if symbol.key = key then clash? input collapsed symbol else none := by
      intro symbol
      unfold clash?
      cases rival? input collapsed symbol <;> simp [Option.filter]
    simp only [clashesWith, symbolsWith, List.filter_filterMap,
      List.filterMap_filter, clashKey]
    apply List.filterMap_congr
    intro symbol _
    by_cases sameKey : symbol.key = key
    · simp [sameKey, clash?, rival?_holdingsWith sameKey]
    · simp [sameKey]

/-- Taking in several inputs and then looking at a key is looking at the key first. -/
theorem takeInAll_symbolsWith
    (start : Nat)
    (inputs : List (List Symbol))
    (holdings : List Holding) :
    takeInAll start (inputs.map (symbolsWith key)) (holdingsWith key holdings) =
      (holdingsWith key (takeInAll start inputs holdings).1,
        clashesWith key (takeInAll start inputs holdings).2) := by
  induction inputs generalizing start holdings with
  | nil =>
      rfl
  | cons symbols rest inductionHypothesis =>
      simp only [List.map_cons, takeInAll, takeIn_symbolsWith, inductionHypothesis]
      simp [clashesWith]

end Merge

/-- The key that a conflict is about. -/
def Conflict.key
    (conflict : Conflict) :
    Kind × NameHash × Option UInt64 :=
  conflict.rejected.symbol.key

/-- A database is what is left of another one without the symbols of other keys. -/
structure Database.RestrictedTo
    (key : Kind × NameHash × Option UInt64)
    (reduced whole : Database) :
    Prop where
  names :
    reduced.names = whole.names
  symbols :
    ∀ kind,
      reduced.symbols kind =
        (whole.symbols kind).filter fun symbol => symbol.key = key
  source :
    reduced.source = whole.source
  hasBaseTypes :
    reduced.hasBaseTypes = whole.hasBaseTypes

namespace Merge

variable
  {key : Kind × NameHash × Option UInt64}
  {reduced inputs : List Database}

/-- The symbols of restricted inputs are those with the key. -/
theorem sequences_restricted
    (restricted : List.Forall₂ (Database.RestrictedTo key) reduced inputs)
    (kind : Kind) :
    sequences reduced kind = (sequences inputs kind).map (symbolsWith key) := by
  rw [sequences, sequences, List.map_map]
  induction restricted with
  | nil =>
      rfl
  | cons here _ inductionHypothesis =>
      simp only [List.map_cons, here.symbols kind, inductionHypothesis]
      rfl

/-- Restricting inputs restricts what is held and what is reported of a kind. -/
theorem symbolsAndClashes_restricted
    (restricted : List.Forall₂ (Database.RestrictedTo key) reduced inputs)
    (kind : Kind) :
    symbolsAndClashes 0 (fun _ => []) reduced kind =
      (holdingsWith key (symbolsAndClashes 0 (fun _ => []) inputs kind).1,
        clashesWith key (symbolsAndClashes 0 (fun _ => []) inputs kind).2) := by
  show takeInAll 0 (sequences reduced kind) (holdingsWith key []) = _
  rw [sequences_restricted restricted kind]
  exact takeInAll_symbolsWith 0 (sequences inputs kind) []

/-- Restricting inputs restricts the reports of the merge, and says the same in them. -/
theorem conflicts_restricted
    (restricted : List.Forall₂ (Database.RestrictedTo key) reduced inputs)
    (names : NameTable)
    (labels : List String) :
    (storeAndConflicts 0 (fun _ => []) reduced names labels).2 =
      (storeAndConflicts 0 (fun _ => []) inputs names labels).2.filter
        fun conflict => conflict.key = key := by
  unfold storeAndConflicts
  rw [List.filter_flatMap]
  apply List.flatMap_congr
  intro kind _
  simp only [symbolsAndClashes_restricted restricted]
  rw [List.filter_map]
  rfl

/-- Restricting inputs restricts what the merge holds of each kind. -/
theorem symbols_restricted
    (restricted : List.Forall₂ (Database.RestrictedTo key) reduced inputs)
    (names : NameTable)
    (labels : List String)
    (kind : Kind) :
    (storeAndConflicts 0 (fun _ => []) reduced names labels).1.symbols kind =
      ((storeAndConflicts 0 (fun _ => []) inputs names labels).1.symbols kind).filter
        fun symbol => symbol.key = key := by
  unfold storeAndConflicts
  rw [Store.symbols_ofSymbols, Store.symbols_ofSymbols, List.filter_comm]
  congr 1
  rw [List.filter_flatMap]
  apply List.flatMap_congr
  intro other _
  simp only [symbolsAndClashes_restricted restricted]
  rw [List.filter_map]
  rfl

end Merge

open Merge

/--
What a merge makes of the symbols under one key depends on these symbols alone.  Without
the symbols of all other keys the inputs can still be merged, and what is held and what
is reported, labels included, is what the whole merge holds and reports under that key.
-/
theorem merge_restricted
    {key : Kind × NameHash × Option UInt64}
    {reduced inputs : List Database}
    {outcome : MergeOutcome}
    (restricted : List.Forall₂ (Database.RestrictedTo key) reduced inputs)
    (merged : Database.merge inputs = .ok outcome) :
    ∃ part,
      Database.merge reduced = .ok part ∧
        part.database.RestrictedTo key outcome.database ∧
        part.conflicts =
          outcome.conflicts.filter fun conflict => conflict.key = key := by
  have sameNames :
      (reduced.flatMap fun input => input.names.names) =
        inputs.flatMap fun input => input.names.names := by
    have tables :
        reduced.map (fun input => input.names.names) =
          inputs.map fun input => input.names.names :=
      map_eq_of_forall₂ restricted fun _ _ same => congrArg NameTable.names same.names
    rw [List.flatMap_def, tables, List.flatMap_def]
  have sameLabels : labels reduced = labels inputs :=
    labels_congr (map_eq_of_forall₂ restricted fun _ _ same => same.source)
  have sameBaseTypes :
      reduced.any Database.hasBaseTypes = inputs.any Database.hasBaseTypes :=
    any_hasBaseTypes_congr
      (map_eq_of_forall₂ restricted fun _ _ same => same.hasBaseTypes)
  have absorbed := Database.absorb_of_merge_ok merged
  rw [← sameNames] at absorbed
  obtain ⟨part, partMerged⟩ := Database.exists_merge_iff.mpr ⟨_, absorbed⟩
  have partNames : part.database.names = outcome.database.names := by
    rw [Database.absorb_of_merge_ok partMerged] at absorbed
    exact (Prod.mk.inj absorbed).2
  obtain ⟨store, conflicts, source, hasBaseTypes⟩ := Database.parts_of_merge_ok merged
  obtain ⟨partStore, partConflicts, partSource, partBaseTypes⟩ :=
    Database.parts_of_merge_ok partMerged
  refine ⟨part, partMerged, ⟨partNames, ?_, ?_, ?_⟩, ?_⟩
  · intro kind
    rw [Database.symbols, Database.symbols, partStore, store, partNames, sameLabels]
    exact symbols_restricted restricted _ _ kind
  · rw [partSource, source]
  · rw [partBaseTypes, hasBaseTypes, sameBaseTypes]
  · rw [partConflicts, conflicts, partNames, sameLabels]
    exact conflicts_restricted restricted _ _

namespace Merge

/-- Two units that disagree about two names. -/
def disagreeingUnits : List Database :=
  [ constantsUnit "a.cpp" [(7, 1, 0), (8, 1, 1)],
    constantsUnit "b.cpp" [(8, 2, 5), (7, 2, 3), (9, 2, 0)] ]

/-- What the units say about one of the names. -/
def disagreeingParts : List Database :=
  [constantsUnit "a.cpp" [(7, 1, 0)], constantsUnit "b.cpp" [(7, 2, 3)]]

theorem disagreeingParts_restricted :
    List.Forall₂ (Database.RestrictedTo (.enumerator, 7, none)) disagreeingParts
      disagreeingUnits := by
  unfold disagreeingParts disagreeingUnits
  refine .cons ?_ (.cons ?_ .nil) <;>
    exact ⟨rfl, fun kind => by cases kind <;> decide, rfl, rfl⟩

end Merge

/-- Of the two conflicts of two units, the one about a name is found without the other. -/
theorem merge_restricted_disagreeingUnits :
    ∃ outcome part,
      Database.merge disagreeingUnits = .ok outcome ∧
        outcome.conflicts.length = 2 ∧
        Database.merge disagreeingParts = .ok part ∧
        part.conflicts.length = 1 ∧
        part.database.RestrictedTo (.enumerator, 7, none) outcome.database ∧
        part.conflicts =
          outcome.conflicts.filter fun conflict =>
            conflict.key = (.enumerator, 7, none) := by
  obtain ⟨outcome, merged, twoConflicts⟩ :
      ∃ outcome,
        Database.merge disagreeingUnits = .ok outcome ∧
          outcome.conflicts.length = 2 :=
    ⟨_, rfl, rfl⟩
  obtain ⟨part, partMerged, restricted, conflicts⟩ :=
    merge_restricted disagreeingParts_restricted merged
  have oneConflict : part.conflicts.length = 1 := by
    obtain rfl := Except.ok.inj (partMerged.symm.trans rfl)
    rfl
  exact ⟨outcome, part, merged, twoConflicts, partMerged, oneConflict, restricted,
    conflicts⟩

end SymbolDatabase
