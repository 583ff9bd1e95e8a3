import Mathlib.Data.List.Rotate
import SymbolDatabase.Proofs.Merge.Clean

namespace SymbolDatabase

/-!
# Clean merges commute

Two databases are merged without a conflict in one order exactly if they are in the
other.  And where a list of databases is merged without a conflict in two orders, both
merges hold the definitions of all databases, each once; what may differ is the order,
and the details in which symbols of one definition may differ.
-/

/-- No two symbols of a database have the same definition. -/
def Database.Distinct
    (database : Database) :
    Prop :=
  ∀ kind,
    (database.symbols kind).Pairwise fun first second =>
      first.sameDefinition second = false

/--
Two databases hold the same definitions, each as often as the other, bind the same names
and have the same flag.
-/
structure Database.SameDefinitions
    (first second : Database) :
    Prop where
  symbols :
    ∀ kind,
      Multiset.Rel (fun one other : Symbol => one.sameDefinition other = true)
        (first.symbols kind : Multiset Symbol) (second.symbols kind : Multiset Symbol)
  names :
    first.names.SameNames second.names
  hasBaseTypes :
    first.hasBaseTypes = second.hasBaseTypes

namespace Merge

/-- The definitions of a database without repetitions are all different. -/
theorem nodup_definitions
    {database : Database}
    (distinct : database.Distinct)
    (kind : Kind) :
    ((database.symbols kind).map Symbol.definition).Nodup := by
  rw [List.Nodup, List.pairwise_map]
  refine (distinct kind).imp ?_
  intro first second different same
  rw [Symbol.sameDefinition_iff.mpr same] at different
  cases different

/-- An input without repetitions adds no definition that is held already, or twice. -/
theorem nodup_settle
    {held incoming : List Symbol}
    (heldNodup : (held.map Symbol.definition).Nodup)
    (incomingNodup : (incoming.map Symbol.definition).Nodup) :
    ((settle held incoming).map Symbol.definition).Nodup := by
  rw [settle, List.map_append, List.nodup_append]
  refine ⟨heldNodup, ?_, ?_⟩
  · exact incomingNodup.sublist (List.filter_sublist.map _)
  · rintro definition isHeldAlready _ isAdmitted rfl
    obtain ⟨symbol, admitted, rfl⟩ := List.mem_map.mp isAdmitted
    have appended : verdict held incoming symbol = .appended := by
      simpa using (List.mem_filter.mp admitted).2
    rw [verdict_eq_collapsed_iff.mpr (isHeld_iff.mpr isHeldAlready)] at appended
    cases appended

/-- Inputs without repetitions lead to a merge without repetitions. -/
theorem nodup_foldl_settle
    {inputs : List (List Symbol)}
    (inputsNodup : ∀ input ∈ inputs, (input.map Symbol.definition).Nodup)
    {held : List Symbol}
    (heldNodup : (held.map Symbol.definition).Nodup) :
    ((inputs.foldl settle held).map Symbol.definition).Nodup := by
  induction inputs generalizing held with
  | nil =>
      exact heldNodup
  | cons incoming rest inductionHypothesis =>
      exact inductionHypothesis (fun input member => inputsNodup input (by simp [member]))
        (nodup_settle heldNodup (inputsNodup incoming (by simp)))

/-- A database has no repetitions if the definitions of each kind are all different. -/
theorem distinct_of_nodup
    {database : Database}
    (nodup : ∀ kind, ((database.symbols kind).map Symbol.definition).Nodup) :
    database.Distinct := by
  intro kind
  have different := nodup kind
  rw [List.Nodup, List.pairwise_map] at different
  refine different.imp fun apart => ?_
  by_contra same
  exact apart (Symbol.sameDefinition_iff.mp (by simpa using same))

variable {inputs : List Database}

/-- Merging databases without repetitions makes none. -/
theorem distinct_of_merge_ok
    {outcome : MergeOutcome}
    (wellFormed : ∀ input ∈ inputs, input.WellFormed)
    (distinct : ∀ input ∈ inputs, input.Distinct)
    (merged : Database.merge inputs = .ok outcome) :
    outcome.database.Distinct := by
  refine distinct_of_nodup fun kind => ?_
  rw [(Database.settles_of_merge_ok wellFormed merged).symbols kind]
  refine nodup_foldl_settle ?_ (by simp)
  intro symbols listed
  obtain ⟨input, member, rfl⟩ := List.mem_map.mp listed
  exact nodup_definitions (distinct input member) kind

/-- A clean merge of databases without repetitions holds each of their definitions once. -/
theorem definitions_of_clean_merge
    {outcome : MergeOutcome}
    (wellFormed : ∀ input ∈ inputs, input.WellFormed)
    (distinct : ∀ input ∈ inputs, input.Distinct)
    (merged : Database.merge inputs = .ok outcome)
    (isClean : outcome.isClean = true)
    (kind : Kind) :
    ((outcome.database.symbols kind).map Symbol.definition).Nodup ∧
      isHeld (outcome.database.symbols kind) =
        isHeld (sequences inputs kind).flatten := by
  have settles := Database.settles_of_merge_ok wellFormed merged
  have undisputed := (isClean_iff_disputesAll wellFormed merged).mp isClean kind
  refine ⟨nodup_definitions (distinct_of_merge_ok wellFormed distinct merged) kind, ?_⟩
  rw [settles.symbols kind]
  exact isHeld_foldl_settle undisputed

end Merge

open Merge

/--
Merging commutes as long as there are no conflicts.  Two databases merge cleanly exactly
if they share a definition under every key that both carry, and so they do in either
order; and two clean merges of databases without repetitions, in any two orders, hold the
same definitions, names and flag.
-/
theorem clean_merge_commutes :
    (∀ first second outcome,
      first.Reachable →
      second.Reachable →
      Database.merge [first, second] = .ok outcome →
        (outcome.isClean = true ↔
          ∀ key, first.Carries key → second.Carries key → first.Shares second key) ∧
          ∃ swapped,
            Database.merge [second, first] = .ok swapped ∧
              (outcome.isClean = true ↔ swapped.isClean = true)) ∧
      ∀ inputs permuted outcome other,
        (∀ input ∈ inputs, input.Reachable) →
        (∀ input ∈ inputs, input.Distinct) →
        inputs.Perm permuted →
        Database.merge inputs = .ok outcome →
        Database.merge permuted = .ok other →
        outcome.isClean = true →
        other.isClean = true →
          outcome.database.SameDefinitions other.database := by
  constructor
  · intro first second outcome firstReachable secondReachable merged
    have wellFormed : ∀ input ∈ [first, second], input.WellFormed := by
      simp [firstReachable.wellFormed, secondReachable.wellFormed]
    have swappedWellFormed : ∀ input ∈ [second, first], input.WellFormed := by
      simp [firstReachable.wellFormed, secondReachable.wellFormed]
    have cleanIff := isClean_iff_chained wellFormed merged
    rw [chained_pair_iff] at cleanIff
    refine ⟨cleanIff, ?_⟩
    obtain ⟨swapped, swappedMerged⟩ :=
      Database.exists_merge_of_subset merged (List.Perm.swap first second []).subset
    refine ⟨swapped, swappedMerged, ?_⟩
    rw [cleanIff, isClean_iff_chained swappedWellFormed swappedMerged,
      chained_pair_iff]
    constructor
    · intro share key secondCarries firstCarries
      exact (share key firstCarries secondCarries).symm
    · intro share key firstCarries secondCarries
      exact (share key secondCarries firstCarries).symm
  · intro inputs permuted outcome other reachable distinct reordered merged otherMerged
      isClean otherIsClean
    have wellFormed : ∀ input ∈ inputs, input.WellFormed :=
      fun input member => (reachable input member).wellFormed
    have permutedWellFormed : ∀ input ∈ permuted, input.WellFormed :=
      fun input member => wellFormed input (reordered.mem_iff.mpr member)
    have permutedDistinct : ∀ input ∈ permuted, input.Distinct :=
      fun input member => distinct input (reordered.mem_iff.mpr member)
    obtain ⟨-, -, -, hasBaseTypes⟩ := Database.parts_of_merge_ok merged
    obtain ⟨-, -, -, otherHasBaseTypes⟩ := Database.parts_of_merge_ok otherMerged
    refine ⟨?_, ?_, ?_⟩
    · intro kind
      obtain ⟨nodup, held⟩ :=
        definitions_of_clean_merge wellFormed distinct merged isClean kind
      obtain ⟨otherNodup, otherHeld⟩ :=
        definitions_of_clean_merge permutedWellFormed permutedDistinct otherMerged
          otherIsClean kind
      -- Both merges hold the definitions of all inputs, which do not depend on the order.
      have sameSymbols :
          (sequences inputs kind).flatten.Perm (sequences permuted kind).flatten :=
        (reordered.map _).flatten
      have sameHeld :
          isHeld (sequences inputs kind).flatten =
            isHeld (sequences permuted kind).flatten :=
        funext fun _ => sameSymbols.any_eq
      exact rel_of_isHeld nodup otherNodup (by rw [held, otherHeld, sameHeld])
    · exact (Database.sameNames_of_merge merged otherMerged
        (mem_names_perm reordered)).1
    · rw [hasBaseTypes, otherHasBaseTypes, reordered.any_eq]

namespace Merge

/-- A function with one parameter, and constants given by their scopes and values. -/
def functionAndConstants
    (parameter : NameHash)
    (constants : List (NameHash × Int64)) :
    List Symbol :=
  let slot : Slot :=
    { name := parameter
      type := 5
      passing := .value
      isConst := false
      offset := 0
      arrayLength := 0 }
  ⟨6, 0, .function ⟨11, none, [slot]⟩⟩ ::
    constants.map fun (parent, value) => ⟨7, parent, .enumerator value⟩

/-- Three units that declare one function, and share some constants of one name. -/
def agreeingUnits : List Database :=
  [ addedUnit (functionAndConstants 21 [(1, 0)]),
    addedUnit (functionAndConstants 22 [(1, 0), (2, 3)]),
    addedUnit (functionAndConstants 23 [(2, 3), (1, 0), (4, 4)]) ]

theorem agreeingUnits_reachable :
    ∀ input ∈ agreeingUnits, input.Reachable := by
  simp [agreeingUnits, reachable_addedUnit]

theorem agreeingUnits_distinct :
    ∀ input ∈ agreeingUnits, input.Distinct := by
  intro input member kind
  simp only [agreeingUnits, List.mem_cons, List.not_mem_nil, or_false] at member
  rcases member with rfl | rfl | rfl <;> cases kind <;> decide

end Merge

/--
The three units merge cleanly in two orders, which keep the function with different
parameters; and so do the first two of them.
-/
theorem clean_merge_commutes_agreeingUnits :
    ∃ outcome other,
      Database.merge agreeingUnits = .ok outcome ∧
        Database.merge (agreeingUnits.rotate 2) = .ok other ∧
        outcome.database.symbols .function ≠ other.database.symbols .function ∧
        outcome.database.SameDefinitions other.database ∧
        (∀ key,
          agreeingUnits[0].Carries key →
          agreeingUnits[1].Carries key →
            agreeingUnits[0].Shares agreeingUnits[1] key) ∧
        ∃ swapped,
          Database.merge [agreeingUnits[1], agreeingUnits[0]] = .ok swapped ∧
            swapped.isClean = true := by
  obtain ⟨outcome, other, merged, otherMerged, isClean, otherIsClean, different⟩ :
      ∃ outcome other,
        Database.merge agreeingUnits = .ok outcome ∧
          Database.merge (agreeingUnits.rotate 2) = .ok other ∧
          outcome.isClean = true ∧
          other.isClean = true ∧
          outcome.database.symbols .function ≠ other.database.symbols .function :=
    ⟨_, _, rfl, rfl, rfl, rfl, by decide⟩
  obtain ⟨pair, pairMerged, pairIsClean⟩ :
      ∃ pair,
        Database.merge [agreeingUnits[0], agreeingUnits[1]] = .ok pair ∧
          pair.isClean = true :=
    ⟨_, rfl, rfl⟩
  have sameDefinitions :=
    clean_merge_commutes.2 _ _ outcome other agreeingUnits_reachable
      agreeingUnits_distinct (List.rotate_perm agreeingUnits 2).symm merged otherMerged
      isClean otherIsClean
  obtain ⟨share, swapped, swappedMerged, swappedIsClean⟩ :=
    clean_merge_commutes.1 _ _ pair (reachable_addedUnit _) (reachable_addedUnit _)
      pairMerged
  exact ⟨outcome, other, merged, otherMerged, different, sameDefinitions,
    share.mp pairIsClean, swapped, swappedMerged, swappedIsClean.mp pairIsClean⟩

end SymbolDatabase
