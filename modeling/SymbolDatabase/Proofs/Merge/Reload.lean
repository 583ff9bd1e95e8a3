import SymbolDatabase.Proofs.Reload

namespace SymbolDatabase

/-!
# Merged databases loaded again

Loading recomputes every identifier under the names that were loaded, and a type that
is not bound is spelled as the empty text.  A merge copies identifiers, and binds the
names of all units.  So a merge of loaded units is loaded again exactly if its names
give every kept function and method the identifier that the names of its own unit
gave it, which can fail where another unit binds a type that the own unit did not.
-/

namespace Database

/-- A database was read from a container or from a document. -/
def Loaded
    (database : Database) :
    Prop :=
  (∃ container, Database.ofContainer container = .ok database) ∨
    ∃ document, Database.ofDocument document = .ok database

/-- What is written for a database fits the fields of a container's header. -/
structure FitsContainer
    (database : Database) :
    Prop where
  names :
    database.snapshot.names.length < UInt32.size
  records :
    database.snapshot.records.length < UInt32.size
  document :
    database.snapshot.compactDocument.length < UInt64.size

theorem Loaded.reachable
    {database : Database}
    (loaded : database.Loaded) :
    database.Reachable := by
  rcases loaded with ⟨container, read⟩ | ⟨document, read⟩
  · exact .ofContainer read
  · exact .ofDocument read

theorem genuine_of_restore
    {snapshot : Snapshot}
    {database : Database}
    (restored : snapshot.restore = .ok database) :
    database.Genuine := by
  obtain ⟨symbols, -, symbolsRestored, storeShape⟩ :=
    Snapshot.restore_eq_ok restored
  rw [genuine_iff, List.all_eq_true]
  intro symbol member
  obtain ⟨kind, inKind⟩ := mem_all_iff.mp member
  rw [Database.symbols, storeShape, Store.symbols_ofSymbols] at inKind
  exact Snapshot.isGenuine_of_restoreSymbols symbolsRestored symbol
    (List.mem_filter.mp inKind).1

/-- Loading lets genuine identifiers through only. -/
theorem Loaded.genuine
    {database : Database}
    (loaded : database.Loaded) :
    database.Genuine := by
  rcases loaded with ⟨container, read⟩ | ⟨document, read⟩
  · obtain ⟨snapshot, -, restored⟩ := restore_of_ofContainer read
    exact genuine_of_restore restored
  · obtain ⟨snapshot, -, restored⟩ := restore_of_ofDocument read
    exact genuine_of_restore restored

end Database

namespace Merge

/--
Under the names of a merge, every kept function and method is identified as under the
names of the unit that it comes from.
-/
def KeepsIdentifiers
    (inputs : List Database)
    (merged : Database) :
    Prop :=
  ∀ kind, ∀ symbol ∈ merged.symbols kind,
    ∀ input ∈ inputs,
      symbol ∈ input.symbols kind →
        ∀ signature,
          symbol.signature? = some signature →
            Signature.identify merged.names signature.result signature.parameters =
              Signature.identify input.names signature.result signature.parameters

/--
Wherever a merge binds the type of a slot of a kept function or method, the unit that
it comes from bound the type as well.
-/
def BindsNoNewTypes
    (inputs : List Database)
    (merged : Database) :
    Prop :=
  ∀ kind, ∀ symbol ∈ merged.symbols kind,
    ∀ input ∈ inputs,
      symbol ∈ input.symbols kind →
        ∀ signature,
          symbol.signature? = some signature →
            ∀ slot ∈ signature.result.toList ++ signature.parameters,
              merged.names.contains slot.type = true →
                input.names.contains slot.type = true

variable {inputs : List Database} {outcome : MergeOutcome}

/-- Every symbol of a merge stands in an input. -/
theorem exists_input_of_merged
    (wellFormed : ∀ input ∈ inputs, input.WellFormed)
    (merged : Database.merge inputs = .ok outcome)
    {kind : Kind}
    {symbol : Symbol}
    (member : symbol ∈ outcome.database.symbols kind) :
    ∃ input ∈ inputs, symbol ∈ input.symbols kind := by
  have settles := Database.settles_of_merge_ok wellFormed merged
  rw [settles.symbols kind] at member
  rcases mem_foldl_settle member with held | ⟨symbols, listed, inInput⟩
  · cases held
  · obtain ⟨input, inputMember, rfl⟩ := List.mem_map.mp listed
    exact ⟨input, inputMember, inInput⟩

/-- A hash that an input binds is bound to the same name by the merge. -/
theorem find?_merged
    (merged : Database.merge inputs = .ok outcome)
    {input : Database}
    (inputMember : input ∈ inputs)
    {hash : NameHash}
    {name : Name}
    (found : input.names.find? hash = some name) :
    outcome.database.names.find? hash = some name := by
  have listed : name ∈ inputs.flatMap fun input => input.names.names :=
    List.mem_flatMap.mpr ⟨input, inputMember, NameTable.mem_of_find? found⟩
  have bound :=
    NameTable.find?_of_mem_absorb (Database.absorb_of_merge_ok merged) listed
  rwa [NameTable.hash_of_find? found] at bound

/-- A merge of loaded databases is genuine exactly if it keeps their identifiers. -/
theorem genuine_iff_keepsIdentifiers
    (loaded : ∀ input ∈ inputs, input.Loaded)
    (merged : Database.merge inputs = .ok outcome) :
    outcome.database.Genuine ↔ KeepsIdentifiers inputs outcome.database := by
  have wellFormed : ∀ input ∈ inputs, input.WellFormed :=
    fun input member => (loaded input member).reachable.wellFormed
  constructor
  · intro genuine kind symbol member input inputMember inInput signature callable
    have own := (loaded input inputMember).genuine kind symbol inInput signature callable
    rw [← own]
    exact (genuine kind symbol member signature callable).symm
  · intro keeps kind symbol member signature callable
    obtain ⟨input, inputMember, inInput⟩ :=
      exists_input_of_merged wellFormed merged member
    have own := (loaded input inputMember).genuine kind symbol inInput signature callable
    rw [own]
    exact
      (keeps kind symbol member input inputMember inInput signature callable).symm

/-- A merge that binds no new types keeps all identifiers. -/
theorem keepsIdentifiers_of_bindsNoNewTypes
    (merged : Database.merge inputs = .ok outcome)
    (noNewTypes : BindsNoNewTypes inputs outcome.database) :
    KeepsIdentifiers inputs outcome.database := by
  intro kind symbol member input inputMember inInput signature callable
  apply Signature.identify_congr
  intro slot inSignature
  rw [NameTable.resolve, NameTable.resolve]
  congr 1
  cases found : input.names.find? slot.type with
  | some name =>
      exact find?_merged merged inputMember found
  | none =>
      cases foundMerged : outcome.database.names.find? slot.type with
      | none =>
          rfl
      | some name =>
          have bound :=
            noNewTypes kind symbol member input inputMember inInput signature callable
              slot inSignature
              (by rw [NameTable.contains, foundMerged]; rfl)
          rw [NameTable.contains, found] at bound
          cases bound

end Merge

open Merge

/--
A merge of loaded databases is loaded again from its container exactly if it fits the
header and keeps the identifiers, and from its document exactly if it keeps the
identifiers; what does not keep them is refused as corrupt.  Identifiers are kept if
no kept function or method has a slot whose type only other units bind.
-/
theorem reload_of_merge_iff
    {inputs : List Database}
    {outcome : MergeOutcome}
    (loaded : ∀ input ∈ inputs, input.Loaded)
    (merged : Database.merge inputs = .ok outcome) :
    ((∃ container reloaded,
        outcome.database.toContainer = .ok container ∧
          Database.ofContainer container = .ok reloaded ∧
          reloaded.snapshot = outcome.database.snapshot) ↔
      outcome.database.FitsContainer ∧
        KeepsIdentifiers inputs outcome.database) ∧
      ((∃ reloaded,
          Database.ofDocument outcome.database.toDocument = .ok reloaded ∧
            reloaded.snapshot = outcome.database.snapshot) ↔
        KeepsIdentifiers inputs outcome.database) ∧
      (¬ KeepsIdentifiers inputs outcome.database →
        Database.ofDocument outcome.database.toDocument = .error .corrupt ∧
          ∀ container,
            outcome.database.toContainer = .ok container →
              Database.ofContainer container = .error .corrupt) ∧
      (BindsNoNewTypes inputs outcome.database →
        KeepsIdentifiers inputs outcome.database) := by
  have wellFormed : ∀ input ∈ inputs, input.WellFormed :=
    fun input member => (loaded input member).reachable.wellFormed
  have mergedWellFormed : outcome.database.WellFormed :=
    .merge wellFormed merged
  have keepsIff := genuine_iff_keepsIdentifiers loaded merged
  have sameSnapshot : outcome.database.trimmed.snapshot = outcome.database.snapshot :=
    mergedWellFormed.sameContent_trimmed.snapshot.symm
  refine ⟨⟨?_, ?_⟩, ⟨?_, ?_⟩, ?_, ?_⟩
  · rintro ⟨container, reloaded, packed, read, -⟩
    obtain ⟨fewNames, fewRecords⟩ := Container.counts_of_pack packed
    have fromContainer := (Database.ofContainer_of_toContainer packed).2
    rw [read] at fromContainer
    split at fromContainer
    next fits =>
      have genuine := mergedWellFormed.genuine_of_restore_snapshot fromContainer.symm
      exact ⟨⟨fewNames, fewRecords, fits⟩, keepsIff.mp genuine⟩
    next =>
      cases fromContainer
  · rintro ⟨fits, keeps⟩
    obtain ⟨container, packed, -, fromContainer⟩ :=
      outcome.database.ofContainer_toContainer fits.names fits.records
    rw [if_pos fits.document,
      mergedWellFormed.restore_of_genuine (keepsIff.mpr keeps)] at fromContainer
    exact ⟨container, _, packed, fromContainer, sameSnapshot⟩
  · rintro ⟨reloaded, read, -⟩
    rw [outcome.database.ofDocument_toDocument] at read
    exact keepsIff.mp (mergedWellFormed.genuine_of_restore_snapshot read)
  · intro keeps
    refine ⟨_, ?_, sameSnapshot⟩
    rw [outcome.database.ofDocument_toDocument,
      mergedWellFormed.restore_of_genuine (keepsIff.mpr keeps)]
  · intro keepsNot
    have restored :=
      mergedWellFormed.restore_of_not_genuine (mt keepsIff.mp keepsNot)
    constructor
    · rw [outcome.database.ofDocument_toDocument, restored]
    · intro container packed
      rw [(Database.ofContainer_of_toContainer packed).2, restored, ite_self]
  · exact keepsIdentifiers_of_bindsNoNewTypes merged

/-- A unit with a function whose result is of a type that the unit does not name. -/
def unnamedResultUnit : Database :=
  let result : Slot :=
    { name := 0
      type := NameHash.ofText "int"
      passing := .value
      isConst := false
      offset := 0
      arrayLength := 0 }
  (Change.addFunction "find" 0 (some result) []).apply Database.empty

/-- A unit that names a type. -/
def namedTypeUnit : Database :=
  (Change.addType "int" 0 4).apply Database.empty

/-- What a unit keeps in a file is loaded from there, if its identifiers are genuine. -/
theorem Database.loaded_trimmed
    {database : Database}
    (reachable : database.Reachable)
    (genuine : database.Genuine) :
    database.trimmed.Loaded := by
  refine Or.inr ⟨database.toDocument, ?_⟩
  rw [database.ofDocument_toDocument, reachable.wellFormed.restore_of_genuine genuine]

theorem loaded_namedTypeUnit :
    namedTypeUnit.trimmed.Loaded :=
  Database.loaded_trimmed (.change _ .empty) (by decide)

/-- A merge is loaded again when the unit of a function names its types itself. -/
theorem reload_of_merge_iff_namedResultUnit :
    ∃ outcome container reloaded,
      Database.merge [namedResultUnit.trimmed, namedTypeUnit.trimmed] =
          .ok outcome ∧
        outcome.database.toContainer = .ok container ∧
        Database.ofContainer container = .ok reloaded ∧
        reloaded.snapshot = outcome.database.snapshot := by
  have loaded :
      ∀ input ∈ [namedResultUnit.trimmed, namedTypeUnit.trimmed],
        input.Loaded := by
    intro input member
    simp only [List.mem_cons, List.not_mem_nil, or_false] at member
    rcases member with rfl | rfl
    · exact Database.loaded_trimmed (.change _ (.change _ .empty)) (by decide)
    · exact loaded_namedTypeUnit
  have merges :
      ∃ outcome,
        Database.merge [namedResultUnit.trimmed, namedTypeUnit.trimmed] =
            .ok outcome ∧
          outcome.database.FitsContainer ∧
          outcome.database.Genuine :=
    ⟨_, rfl, ⟨by decide, by decide, by decide +kernel⟩, by decide⟩
  obtain ⟨outcome, merged, fits, genuine⟩ := merges
  have keeps : KeepsIdentifiers _ outcome.database :=
    (genuine_iff_keepsIdentifiers loaded merged).mp genuine
  obtain ⟨container, reloaded, packed, read, sameSnapshot⟩ :=
    (reload_of_merge_iff loaded merged).1.mpr ⟨fits, keeps⟩
  exact ⟨outcome, container, reloaded, merged, packed, read, sameSnapshot⟩

/--
Two units are loaded and merged without a conflict, and what is saved of the merge is
refused as corrupt: the second unit binds the type that the first one left unbound.
-/
theorem not_reload_of_merge_unnamedResultUnit :
    unnamedResultUnit.trimmed.Loaded ∧
      namedTypeUnit.trimmed.Loaded ∧
      ∃ outcome container,
        Database.merge [unnamedResultUnit.trimmed, namedTypeUnit.trimmed] =
            .ok outcome ∧
          outcome.isClean = true ∧
          outcome.database.toContainer = .ok container ∧
          Database.ofContainer container = .error .corrupt := by
  have loaded : unnamedResultUnit.trimmed.Loaded :=
    Database.loaded_trimmed (.change _ .empty) (by decide)
  have merges :
      ∃ outcome,
        Database.merge [unnamedResultUnit.trimmed, namedTypeUnit.trimmed] =
            .ok outcome ∧
          outcome.isClean = true ∧
          outcome.database.snapshot.names.length < UInt32.size ∧
          outcome.database.snapshot.records.length < UInt32.size ∧
          ¬ outcome.database.Genuine :=
    ⟨_, rfl, by decide, by decide, by decide, by decide⟩
  obtain ⟨outcome, merged, isClean, fewNames, fewRecords, notGenuine⟩ := merges
  have mergedWellFormed : outcome.database.WellFormed := by
    refine .merge ?_ merged
    intro input member
    simp only [List.mem_cons, List.not_mem_nil, or_false] at member
    rcases member with rfl | rfl
    · exact loaded.reachable.wellFormed
    · exact loaded_namedTypeUnit.reachable.wellFormed
  obtain ⟨container, packed, -, fromContainer⟩ :=
    outcome.database.ofContainer_toContainer fewNames fewRecords
  refine ⟨loaded, loaded_namedTypeUnit, outcome, container, merged, isClean, packed, ?_⟩
  rw [fromContainer, mergedWellFormed.restore_of_not_genuine notGenuine, ite_self]

end SymbolDatabase
