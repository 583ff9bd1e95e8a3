import Mathlib.Data.List.Forall2
import Mathlib.Data.List.Induction
import SymbolDatabase.Proofs.Merge.Outcome
import SymbolDatabase.Proofs.Names.Union

namespace SymbolDatabase

/-!
# What a merge reads of its inputs

A merge unites the names of its inputs, takes in their symbols kind by kind, labels them
by their sources, and notes whether one of them has the base types.  Two lists of inputs
that agree in one of these respects agree in what the merge makes of it.
-/

namespace Merge

variable {inputs others : List Database}

/-- What conflict reports call the inputs. -/
def labels
    (inputs : List Database) :
    List String :=
  inputs.zipIdx.map fun (input, number) => inputLabel number input

/-- What is the same for two inputs at each position is the same list for both lists. -/
theorem map_eq_of_forall₂
    {α : Type}
    {relation : Database → Database → Prop}
    {view : Database → α}
    (related : List.Forall₂ relation inputs others)
    (same : ∀ first second, relation first second → view first = view second) :
    inputs.map view = others.map view := by
  rw [← List.forall₂_eq_eq_eq, List.forall₂_map_left_iff, List.forall₂_map_right_iff]
  exact related.imp same

/-- Inputs with the same sources have the same labels. -/
theorem labels_congr
    (same : inputs.map Database.source = others.map Database.source) :
    labels inputs = labels others := by
  have bySource :
      ∀ databases : List Database,
        labels databases =
          (databases.map Database.source).zipIdx.map fun (source, number) =>
            source.getD ("input #" ++ toString number) := by
    intro databases
    simp [labels, inputLabel, List.zipIdx_map, Function.comp_def]
  rw [bySource, bySource, same]

/-- Inputs with the same flags have the base types between them alike. -/
theorem any_hasBaseTypes_congr
    (same : inputs.map Database.hasBaseTypes = others.map Database.hasBaseTypes) :
    inputs.any Database.hasBaseTypes = others.any Database.hasBaseTypes := by
  have byFlags :
      ∀ databases : List Database,
        databases.any Database.hasBaseTypes =
          (databases.map Database.hasBaseTypes).any id := by
    simp
  rw [byFlags, byFlags, same]

end Merge

namespace Database

open Merge

variable {inputs others : List Database}

/-- What a merge that succeeded consists of, besides the united names. -/
theorem parts_of_merge_ok
    {outcome : MergeOutcome}
    (merged : Database.merge inputs = .ok outcome) :
    outcome.database.store =
        (storeAndConflicts 0 (fun _ => []) inputs outcome.database.names
          (labels inputs)).1 ∧
      outcome.conflicts =
        (storeAndConflicts 0 (fun _ => []) inputs outcome.database.names
          (labels inputs)).2 ∧
      outcome.database.source = none ∧
      outcome.database.hasBaseTypes = inputs.any Database.hasBaseTypes := by
  have absorbed := absorb_of_merge_ok merged
  unfold Database.merge at merged
  rw [absorbed] at merged
  simp only [Except.ok.injEq] at merged
  rw [← merged]
  exact ⟨rfl, rfl, rfl, rfl⟩

/-- Merging succeeds exactly if the names can be united. -/
theorem exists_merge_iff :
    (∃ outcome, Database.merge inputs = .ok outcome) ↔
      ∃ names,
        NameTable.empty.absorb (inputs.flatMap fun input => input.names.names) =
          (.ok (), names) := by
  constructor
  · rintro ⟨outcome, merged⟩
    exact ⟨_, absorb_of_merge_ok merged⟩
  · rintro ⟨names, absorbed⟩
    unfold Database.merge
    rw [absorbed]
    exact ⟨_, rfl⟩

/-- Databases can be merged if other databases that list all their names can. -/
theorem exists_merge_of_names
    {outcome : MergeOutcome}
    (merged : Database.merge inputs = .ok outcome)
    (listed :
      ∀ name,
        (name ∈ others.flatMap fun input => input.names.names) →
          name ∈ inputs.flatMap fun input => input.names.names) :
    ∃ other, Database.merge others = .ok other := by
  have unitable := NameTable.unitable_of_absorb (absorb_of_merge_ok merged)
  exact exists_merge_iff.mpr
    ⟨_, NameTable.absorb_eraseDups [] (unitable.of_subset listed)⟩

/-- Databases can be merged if they are among others that can. -/
theorem exists_merge_of_subset
    {outcome : MergeOutcome}
    (merged : Database.merge inputs = .ok outcome)
    (subset : others ⊆ inputs) :
    ∃ other, Database.merge others = .ok other := by
  refine exists_merge_of_names merged fun name listed => ?_
  obtain ⟨input, member, named⟩ := List.mem_flatMap.mp listed
  exact List.mem_flatMap.mpr ⟨input, subset member, named⟩

/-- Databases that list the same names between them are merged to the same names. -/
theorem sameNames_of_merge
    {first second : MergeOutcome}
    (merged : Database.merge inputs = .ok first)
    (otherMerged : Database.merge others = .ok second)
    (same :
      ∀ name,
        (name ∈ inputs.flatMap fun input => input.names.names) ↔
          name ∈ others.flatMap fun input => input.names.names) :
    first.database.names.SameNames second.database.names ∧
      first.database.names.resolve = second.database.names.resolve := by
  obtain ⟨names, absorbed, sameNames, sameResolved⟩ :=
    NameTable.absorb_of_sameNames (absorb_of_merge_ok merged) same
  obtain rfl : second.database.names = names := by
    rw [absorb_of_merge_ok otherMerged] at absorbed
    exact (Prod.mk.inj absorbed).2
  exact ⟨sameNames, funext sameResolved⟩

end Database

namespace Merge

variable {inputs permuted : List Database}

/-- In another order, databases list the same names between them. -/
theorem mem_names_perm
    (reordered : inputs.Perm permuted)
    (name : Name) :
    (name ∈ inputs.flatMap fun input => input.names.names) ↔
      name ∈ permuted.flatMap fun input => input.names.names :=
  (reordered.flatMap_right _).mem_iff

/-- A unit with constants, each given by its name, its scope and its value. -/
def constantsUnit
    (source : String)
    (constants : List (NameHash × NameHash × Int64)) :
    Database :=
  let symbols :=
    constants.map fun (name, parent, value) => ⟨name, parent, .enumerator value⟩
  { Database.empty with
    source := some source
    store := Store.ofSymbols symbols }

/-- The unit that a client gets by adding symbols one after another. -/
def addedUnit
    (symbols : List Symbol) :
    Database :=
  symbols.foldl (fun unit symbol => (Change.addSymbol symbol).apply unit) Database.empty

theorem reachable_addedUnit
    (symbols : List Symbol) :
    (addedUnit symbols).Reachable := by
  unfold addedUnit
  induction symbols using List.reverseRecOn with
  | nil =>
      exact .empty
  | append_singleton front last inductionHypothesis =>
      rw [List.foldl_append]
      exact .change _ inductionHypothesis

end Merge

end SymbolDatabase
