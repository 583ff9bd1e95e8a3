import SymbolDatabase.Proofs.Store

namespace SymbolDatabase

/-!
# Merging again

A database that has all names and definitions and the flag of another one does not change
when it takes in the other: the names are found, every symbol collapses, and nothing is
disputed.  A clean merge has all that its inputs have.  So it takes in any of them again
without a change, and merging a list with some of its members repeated behind it is
merging the list.
-/

/-- A database has the names, the definitions and the flag of another one. -/
structure Database.Includes
    (database member : Database) :
    Prop where
  names :
    member.names.names ⊆ database.names.names
  definitions :
    ∀ kind, ∀ symbol ∈ member.symbols kind,
      Merge.isHeld (database.symbols kind) symbol = true
  hasBaseTypes :
    member.hasBaseTypes = true → database.hasBaseTypes = true

namespace Merge

/-- An input whose definitions are all held adds nothing. -/
theorem settle_of_isHeld
    {held incoming : List Symbol}
    (known : ∀ symbol ∈ incoming, isHeld held symbol = true) :
    settle held incoming = held := by
  have nothingAdmitted :
      (incoming.filter fun symbol => verdict held incoming symbol = .appended) = [] := by
    rw [List.filter_eq_nil_iff]
    intro symbol member
    simp [verdict_eq_collapsed_iff.mpr (known symbol member)]
  rw [settle, nothingAdmitted, List.append_nil]

/-- An input whose definitions are all held disputes nothing. -/
theorem disputes_of_isHeld
    {held incoming : List Symbol}
    (known : ∀ symbol ∈ incoming, isHeld held symbol = true) :
    disputes held incoming = [] := by
  rw [disputes, List.filterMap_eq_nil_iff]
  intro symbol member
  simp [verdict_eq_collapsed_iff.mpr (known symbol member)]

/-- Taking databases into one that includes them leads back to it. -/
theorem Settles.of_includes
    {database : Database}
    {members : List Database}
    (includes : ∀ member ∈ members, database.Includes member) :
    Settles database.names database.symbols database.hasBaseTypes members database [] := by
  induction members with
  | nil =>
      exact .nil database
  | cons member rest inductionHypothesis =>
      have included := includes member (by simp)
      have settles :
          Settles database.names database.symbols database.hasBaseTypes [member] database
            [] := by
        refine ⟨rfl, fun kind => ?symbols, ?hasBaseTypes, fun kind => ?contents⟩
        case symbols =>
          exact (settle_of_isHeld (included.definitions kind)).symm
        case hasBaseTypes =>
          cases flag : member.hasBaseTypes
          · simp [flag]
          · simp [included.hasBaseTypes flag]
        case contents =>
          have undisputed := disputes_of_isHeld (included.definitions kind)
          simp [sequences, disputesAll, undisputed, Conflict.contentsOf]
      exact settles.append
        (inductionHypothesis fun other later => includes other (List.mem_cons_of_mem _ later))

end Merge

open Merge

/-- A database does not change, and meets no conflict, when it absorbs what it includes. -/
theorem Edit.absorb_of_includes
    {database member : Database}
    (reachable : database.Reachable)
    (memberReachable : member.Reachable)
    (includes : database.Includes member) :
    Edit.absorb member database = (.ok [], database) := by
  have wellFormed := reachable.wellFormed
  obtain ⟨conflicts, extended, absorbed, settles⟩ :=
    absorb_of_absorb_ok wellFormed memberReachable.wellFormed
      (NameTable.absorb_of_subset wellFormed.names includes.names)
  have agree := settles.agree (.of_includes (by simpa using includes))
  have none : conflicts = [] := Conflict.eq_nil_iff.mpr agree.contents
  have unchanged : extended = database := by
    have extendedReachable := Database.Reachable.absorb reachable memberReachable
    have sameSource := source_absorb member database
    rw [absorbed] at extendedReachable sameSource
    exact extendedReachable.eq_of_same reachable agree.names agree.symbols sameSource
      agree.hasBaseTypes
  rw [absorbed, none, unchanged]

namespace Database

variable {inputs : List Database} {outcome : MergeOutcome}

/-- Merging one database takes it over, without its label. -/
theorem merge_singleton
    {database : Database}
    (reachable : database.Reachable) :
    Database.merge [database] = .ok ⟨{ database with source := none }, []⟩ := by
  have inputsReachable : ∀ input ∈ [database], input.Reachable := by
    simpa using reachable
  have united :
      NameTable.empty.absorb ([database].flatMap fun input => input.names.names) =
        (.ok (), database.names) := by
    simpa using NameTable.absorb_names_self reachable.wellFormed.names
  obtain ⟨⟨found, conflicts⟩, merged, settles⟩ :=
    merge_of_absorb_ok (fun input member => (inputsReachable input member).wellFormed) united
  have agree := settles.of_cons.agree (.nil database)
  have none : conflicts = [] := Conflict.eq_nil_iff.mpr agree.contents
  obtain ⟨-, -, unlabelled, -⟩ := parts_of_merge_ok merged
  have taken : found = { database with source := .none } := by
    have foundReachable := Reachable.merge inputsReachable merged
    exact foundReachable.eq_of_same (.change (.setSource .none) reachable) agree.names
      agree.symbols unlabelled agree.hasBaseTypes
  rw [merged, none, taken]

/-- A clean merge includes its inputs. -/
theorem includes_of_clean_merge
    (reachable : ∀ input ∈ inputs, input.Reachable)
    (merged : Database.merge inputs = .ok outcome)
    (isClean : outcome.isClean = true)
    {member : Database}
    (isInput : member ∈ inputs) :
    outcome.database.Includes member := by
  have wellFormed : ∀ input ∈ inputs, input.WellFormed :=
    fun input listed => (reachable input listed).wellFormed
  have settles := settles_of_merge_ok wellFormed merged
  have undisputed := (isClean_iff_disputesAll wellFormed merged).mp isClean
  refine
    ⟨fun name listed => ?names, fun kind symbol listed => ?definitions, fun flag => ?flag⟩
  case names =>
    refine NameTable.subset_of_absorb (absorb_of_merge_ok merged) ?_
    exact List.mem_flatMap_of_mem isInput listed
  case definitions =>
    rw [settles.symbols kind, isHeld_foldl_settle (undisputed kind)]
    exact isHeld_of_mem (mem_flatten_sequences.mpr ⟨member, isInput, listed⟩)
  case flag =>
    rw [settles.hasBaseTypes, Bool.false_or, List.any_eq_true]
    exact ⟨member, isInput, flag⟩

/-- Databases that a clean merge includes add nothing behind its inputs. -/
theorem merge_append_of_includes
    (reachable : ∀ input ∈ inputs, input.Reachable)
    (merged : Database.merge inputs = .ok outcome)
    (isClean : outcome.isClean = true)
    {repeated : List Database}
    (repeatedReachable : ∀ member ∈ repeated, member.Reachable)
    (includes : ∀ member ∈ repeated, outcome.database.Includes member) :
    Database.merge (inputs ++ repeated) = .ok outcome := by
  have allReachable : ∀ input ∈ inputs ++ repeated, input.Reachable :=
    List.forall_mem_append.mpr ⟨reachable, repeatedReachable⟩
  have outcomeReachable := Reachable.merge reachable merged
  have included :
      (repeated.flatMap fun input => input.names.names) ⊆ outcome.database.names.names := by
    intro name listed
    obtain ⟨member, isRepeated, named⟩ := List.mem_flatMap.mp listed
    exact (includes member isRepeated).names named
  have united :
      NameTable.empty.absorb ((inputs ++ repeated).flatMap fun input => input.names.names) =
        (.ok (), outcome.database.names) := by
    rw [List.flatMap_append, NameTable.absorb_append, absorb_of_merge_ok merged]
    exact NameTable.absorb_of_subset outcomeReachable.wellFormed.names included
  obtain ⟨⟨found, conflicts⟩, foundMerged, settles⟩ :=
    merge_of_absorb_ok (fun input member => (allReachable input member).wellFormed) united
  have inputsSettle :=
    settles_of_merge_ok (fun input member => (reachable input member).wellFormed) merged
  have agree := settles.agree (inputsSettle.append (.of_includes includes))
  have noConflicts : outcome.conflicts = [] := List.isEmpty_iff.mp isClean
  rw [noConflicts] at agree
  have none : conflicts = [] := Conflict.eq_nil_iff.mpr agree.contents
  obtain ⟨-, -, unlabelled, -⟩ := parts_of_merge_ok merged
  obtain ⟨-, -, foundUnlabelled, -⟩ := parts_of_merge_ok foundMerged
  have same : found = outcome.database :=
    (Reachable.merge allReachable foundMerged).eq_of_same outcomeReachable agree.names
      agree.symbols (foundUnlabelled.trans unlabelled.symm) agree.hasBaseTypes
  rw [foundMerged, none, same, ← noConflicts]

end Database

/--
Merging what is merged already changes nothing.  The merge of one database is that
database, without its label and without conflicts.  And a clean merge absorbs any of its
inputs again without a conflict or any change, and is also what its inputs and any of them
once more are merged to.
-/
theorem merging_again_changes_nothing :
    (∀ database,
      database.Reachable →
        Database.merge [database] = .ok ⟨{ database with source := none }, []⟩) ∧
      ∀ inputs outcome,
        (∀ input ∈ inputs, input.Reachable) →
        Database.merge inputs = .ok outcome →
        outcome.isClean = true →
          (∀ member ∈ inputs,
            Edit.absorb member outcome.database = (.ok [], outcome.database)) ∧
            ∀ repeated,
              repeated ⊆ inputs → Database.merge (inputs ++ repeated) = .ok outcome := by
  refine ⟨fun database reachable => Database.merge_singleton reachable, ?_⟩
  intro inputs outcome reachable merged isClean
  have includes : ∀ member ∈ inputs, outcome.database.Includes member :=
    fun member isInput => Database.includes_of_clean_merge reachable merged isClean isInput
  constructor
  · intro member isInput
    exact Edit.absorb_of_includes (.merge reachable merged) (reachable member isInput)
      (includes member isInput)
  · intro repeated subset
    exact Database.merge_append_of_includes reachable merged isClean
      (fun member isRepeated => reachable member (subset isRepeated))
      (fun member isRepeated => includes member (subset isRepeated))

/--
The three units declare one function with three spellings of its parameter.  Their merge
keeps the first of them, absorbs the second unit without a change, and stays the same with
all units repeated in another order.
-/
theorem merging_again_changes_nothing_agreeingUnits :
    ∃ outcome,
      Database.merge agreeingUnits = .ok outcome ∧
        Database.merge [outcome.database] = .ok outcome ∧
        Edit.absorb agreeingUnits[1] outcome.database = (.ok [], outcome.database) ∧
        agreeingUnits[1].symbols .function ≠ outcome.database.symbols .function ∧
        Database.merge (agreeingUnits ++ agreeingUnits.rotate 2) = .ok outcome := by
  obtain ⟨outcome, merged, isClean, unlabelled, different⟩ :
      ∃ outcome,
        Database.merge agreeingUnits = .ok outcome ∧
          outcome.isClean = true ∧
          outcome = ⟨{ outcome.database with source := none }, []⟩ ∧
          agreeingUnits[1].symbols .function ≠ outcome.database.symbols .function :=
    ⟨_, rfl, rfl, rfl, by decide⟩
  have reachable := Database.Reachable.merge agreeingUnits_reachable merged
  obtain ⟨absorbed, repeated⟩ :=
    merging_again_changes_nothing.2 _ outcome agreeingUnits_reachable merged isClean
  refine ⟨outcome, merged, ?_, absorbed _ (by simp), different, repeated _ ?_⟩
  · rw [merging_again_changes_nothing.1 _ reachable, ← unlabelled]
  · exact (List.rotate_perm agreeingUnits 2).subset

end SymbolDatabase
