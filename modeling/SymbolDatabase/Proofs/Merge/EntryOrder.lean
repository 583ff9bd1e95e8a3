import Mathlib.Data.List.Perm.Basic
import SymbolDatabase.Proofs.Merge.Inputs
import SymbolDatabase.Proofs.Merge.Reference

namespace SymbolDatabase

/-!
# The order of symbols inside an input

The verdict on a symbol looks at what is held and at the other symbols of its input, and
at neither for its order.  So when the symbols of every input are put into another order,
the same symbols are appended and the same ones are rejected, in another order.  What a
rejected symbol is reported against is left out of this: that is the first symbol held
under its key, which the order decides.
-/

namespace Merge

/-- What is held, and what is occupied, does not depend on the order. -/
theorem verdict_perm
    {held otherHeld incoming others : List Symbol}
    (heldPermuted : held.Perm otherHeld)
    (incomingPermuted : incoming.Perm others)
    (symbol : Symbol) :
    verdict held incoming symbol = verdict otherHeld others symbol := by
  have sameHeld : isHeld held = isHeld otherHeld :=
    funext fun _ => heldPermuted.any_eq
  have sameOccupied : isOccupied held symbol = isOccupied otherHeld symbol :=
    heldPermuted.any_eq
  have sameContributes :
      contributes held incoming symbol = contributes otherHeld others symbol := by
    unfold contributes
    rw [sameHeld]
    exact incomingPermuted.any_eq
  unfold verdict
  rw [sameHeld, sameOccupied, sameContributes]

/-- The symbols of an input that get a verdict are the same in every order. -/
theorem filter_verdict_perm
    {held otherHeld incoming others : List Symbol}
    (heldPermuted : held.Perm otherHeld)
    (incomingPermuted : incoming.Perm others)
    (fate : Fate) :
    (incoming.filter fun symbol => verdict held incoming symbol = fate).Perm
      (others.filter fun symbol => verdict otherHeld others symbol = fate) := by
  simp only [verdict_perm heldPermuted incomingPermuted]
  exact incomingPermuted.filter _

/-- What is held after an input is the same in every order. -/
theorem settle_perm
    {held otherHeld incoming others : List Symbol}
    (heldPermuted : held.Perm otherHeld)
    (incomingPermuted : incoming.Perm others) :
    (settle held incoming).Perm (settle otherHeld others) :=
  heldPermuted.append (filter_verdict_perm heldPermuted incomingPermuted .appended)

/-- What is held after several inputs is the same for every order inside each of them. -/
theorem foldl_settle_perm
    {inputs others : List (List Symbol)}
    (permuted : List.Forall₂ List.Perm inputs others)
    {held otherHeld : List Symbol}
    (heldPermuted : held.Perm otherHeld) :
    (inputs.foldl settle held).Perm (others.foldl settle otherHeld) := by
  induction permuted generalizing held otherHeld with
  | nil =>
      exact heldPermuted
  | cons here _ inductionHypothesis =>
      exact inductionHypothesis (settle_perm heldPermuted here)

/-- The rejected symbols of several inputs, each held as coming from its own input. -/
def rejections :
    (start : Nat) → List (List Symbol) → (held : List Symbol) → List Holding
  | _, [], _ =>
      []
  | start, incoming :: rest, held =>
      ((incoming.filter fun symbol =>
          verdict held incoming symbol = .rejected).map fun symbol =>
        ⟨symbol, [start]⟩) ++
        rejections (start + 1) rest (settle held incoming)

/-- The rejected symbols are the same for every order inside each of the inputs. -/
theorem rejections_perm
    {inputs others : List (List Symbol)}
    (permuted : List.Forall₂ List.Perm inputs others)
    (start : Nat)
    {held otherHeld : List Symbol}
    (heldPermuted : held.Perm otherHeld) :
    (rejections start inputs held).Perm (rejections start others otherHeld) := by
  induction permuted generalizing start held otherHeld with
  | nil =>
      exact .nil
  | cons here _ inductionHypothesis =>
      exact ((filter_verdict_perm heldPermuted here .rejected).map _).append
        (inductionHypothesis (start + 1) (settle_perm heldPermuted here))

/-- The clashes of an input are about its rejected symbols. -/
theorem rejected_takeIn
    {input : Nat}
    {holdings : List Holding}
    (below : OriginsBelow input holdings)
    (symbols : List Symbol) :
    (takeIn input symbols holdings).2.map Clash.rejected =
      (symbols.filter fun symbol =>
          verdict (heldSymbols holdings) symbols symbol = .rejected).map
        fun symbol => ⟨symbol, [input]⟩ := by
  have fromInput :
      ∀ clash ∈ (takeIn input symbols holdings).2,
        clash.rejected = ⟨clash.symbols.2, [input]⟩ := by
    intro clash member
    obtain ⟨symbol, -, found⟩ := List.mem_filterMap.mp member
    obtain ⟨kept, -, rfl⟩ := Option.map_eq_some_iff.mp found
    rfl
  rw [← map_snd_disputes, ← clashes_takeIn below symbols, List.map_map, List.map_map]
  exact List.map_congr_left fromInput

/-- The clashes of several inputs are about their rejected symbols. -/
theorem rejected_takeInAll
    {start : Nat}
    {holdings : List Holding}
    (below : OriginsBelow start holdings)
    (inputs : List (List Symbol)) :
    (takeInAll start inputs holdings).2.map Clash.rejected =
      rejections start inputs (heldSymbols holdings) := by
  induction inputs generalizing start holdings with
  | nil =>
      rfl
  | cons symbols rest inductionHypothesis =>
      simp only [takeInAll, List.map_append, rejected_takeIn below symbols,
        inductionHypothesis (originsBelow_takeIn below symbols),
        heldSymbols_takeIn below symbols, rejections]

end Merge

namespace Conflict

/-- What a report says about the rejected definition. -/
def rejection
    (conflict : Conflict) :
    Kind × Name × Option UInt64 × ConflictSide :=
  (conflict.kind, conflict.name, conflict.identifier, conflict.rejected)

end Conflict

/-- Two databases that differ in nothing but the order of names and symbols. -/
structure Database.Reordered
    (first second : Database) :
    Prop where
  names :
    first.names.SameNames second.names
  symbols :
    ∀ kind, (first.symbols kind).Perm (second.symbols kind)
  source :
    first.source = second.source
  hasBaseTypes :
    first.hasBaseTypes = second.hasBaseTypes

namespace Merge

variable {inputs others : List Database}

/-- Databases that differ in order only have permuted symbols of each kind. -/
theorem sequences_reordered
    (reordered : List.Forall₂ Database.Reordered inputs others)
    (kind : Kind) :
    List.Forall₂ List.Perm (sequences inputs kind) (sequences others kind) := by
  simp only [sequences, List.forall₂_map_left_iff, List.forall₂_map_right_iff]
  exact reordered.imp fun _ _ same => same.symbols kind

/-- Databases that differ in order only list the same names between them. -/
theorem mem_names_reordered
    (reordered : List.Forall₂ Database.Reordered inputs others)
    (name : Name) :
    (name ∈ inputs.flatMap fun input => input.names.names) ↔
      name ∈ others.flatMap fun input => input.names.names := by
  induction reordered with
  | nil =>
      rfl
  | cons here _ inductionHypothesis =>
      simp only [List.flatMap_cons, List.mem_append, here.names name,
        inductionHypothesis]

/-- What a merge holds of each kind, and what its reports say of rejected symbols. -/
theorem rejections_of_merge_ok
    {outcome : MergeOutcome}
    (merged : Database.merge inputs = .ok outcome) :
    (∀ kind,
      outcome.database.symbols kind =
        (Kind.all.flatMap fun other =>
            (sequences inputs other).foldl settle []).filter
          fun symbol => symbol.kind = kind) ∧
      outcome.conflicts.map Conflict.rejection =
        Kind.all.flatMap fun kind =>
          (rejections 0 (sequences inputs kind) []).map fun holding =>
            (kind, outcome.database.names.resolve holding.symbol.name,
              holding.symbol.identifier?, holding.side (labels inputs)) := by
  have nothingBelow : OriginsBelow 0 [] := by
    simp [OriginsBelow]
  have settled :=
    fun other => (takeInAll_eq_settle nothingBelow (sequences inputs other)).1
  have rejected :=
    fun other => rejected_takeInAll nothingBelow (sequences inputs other)
  obtain ⟨store, conflicts, -⟩ := Database.parts_of_merge_ok merged
  constructor
  · intro kind
    rw [Database.symbols, store, storeAndConflicts, Store.symbols_ofSymbols]
    congr 1
    exact List.flatMap_congr fun other _ => settled other
  · rw [conflicts, storeAndConflicts, List.map_flatMap]
    apply List.flatMap_congr
    intro kind _
    rw [show rejections 0 (sequences inputs kind) [] = _ from (rejected kind).symm,
      List.map_map, List.map_map]
    rfl

end Merge

open Merge

/--
The order of names and symbols inside the inputs decides neither whether they can be
merged, nor what the merge holds, nor which symbols of which input it rejects.
-/
theorem merge_reordered
    {inputs others : List Database}
    (reordered : List.Forall₂ Database.Reordered inputs others) :
    ((∃ outcome, Database.merge inputs = .ok outcome) ↔
      ∃ outcome, Database.merge others = .ok outcome) ∧
      ∀ first second,
        Database.merge inputs = .ok first →
        Database.merge others = .ok second →
          first.database.Reordered second.database ∧
            (first.conflicts.map Conflict.rejection).Perm
              (second.conflicts.map Conflict.rejection) := by
  have sameNames := mem_names_reordered reordered
  constructor
  · constructor
    · rintro ⟨outcome, merged⟩
      exact Database.exists_merge_of_names merged fun name => (sameNames name).mpr
    · rintro ⟨outcome, merged⟩
      exact Database.exists_merge_of_names merged fun name => (sameNames name).mp
  · intro first second merged otherMerged
    obtain ⟨namesUnited, sameResolved⟩ :=
      Database.sameNames_of_merge merged otherMerged sameNames
    obtain ⟨firstSymbols, firstRejections⟩ := rejections_of_merge_ok merged
    obtain ⟨secondSymbols, secondRejections⟩ := rejections_of_merge_ok otherMerged
    obtain ⟨-, -, firstSource, firstBaseTypes⟩ := Database.parts_of_merge_ok merged
    obtain ⟨-, -, secondSource, secondBaseTypes⟩ := Database.parts_of_merge_ok otherMerged
    have sameLabels : labels inputs = labels others :=
      labels_congr (map_eq_of_forall₂ reordered fun _ _ same => same.source)
    have sameBaseTypes :
        inputs.any Database.hasBaseTypes = others.any Database.hasBaseTypes :=
      any_hasBaseTypes_congr
        (map_eq_of_forall₂ reordered fun _ _ same => same.hasBaseTypes)
    refine ⟨⟨namesUnited, ?_, ?_, ?_⟩, ?_⟩
    · intro kind
      rw [firstSymbols, secondSymbols]
      refine (List.Perm.flatMap_left _ fun other _ => ?_).filter _
      exact foldl_settle_perm (sequences_reordered reordered other) .nil
    · rw [firstSource, secondSource]
    · rw [firstBaseTypes, secondBaseTypes, sameBaseTypes]
    · rw [firstRejections, secondRejections, sameResolved, sameLabels]
      refine List.Perm.flatMap_left _ fun kind _ => ?_
      exact (rejections_perm (sequences_reordered reordered kind) 0 .nil).map _

namespace Merge

/-- Three units, one of which repeats a constant that it shares with another. -/
def repeatingUnits : List Database :=
  [ constantsUnit "a.cpp" [(7, 1, 0), (7, 2, 1)],
    constantsUnit "b.cpp" [(7, 3, 2), (7, 2, 1), (7, 2, 1)],
    constantsUnit "c.cpp" [(7, 4, 3)] ]

/-- The same units with their constants in another order. -/
def shuffledUnits : List Database :=
  [ constantsUnit "a.cpp" [(7, 2, 1), (7, 1, 0)],
    constantsUnit "b.cpp" [(7, 2, 1), (7, 3, 2), (7, 2, 1)],
    constantsUnit "c.cpp" [(7, 4, 3)] ]

theorem repeatingUnits_reordered :
    List.Forall₂ Database.Reordered repeatingUnits shuffledUnits := by
  unfold repeatingUnits shuffledUnits
  refine .cons ?_ (.cons ?_ (.cons ?_ .nil)) <;>
    exact ⟨fun _ => Iff.rfl, fun kind => by cases kind <;> decide, rfl, rfl⟩

end Merge

/--
The constant of the third unit is rejected in both orders, once in favour of the one
and once of the other constant of the first unit.
-/
theorem merge_reordered_repeatingUnits :
    ∃ first second,
      Database.merge repeatingUnits = .ok first ∧
        Database.merge shuffledUnits = .ok second ∧
        first.conflicts.length = 1 ∧
        first.conflicts ≠ second.conflicts ∧
        first.database.Reordered second.database ∧
        (first.conflicts.map Conflict.rejection).Perm
          (second.conflicts.map Conflict.rejection) := by
  obtain ⟨first, second, merged, otherMerged, oneConflict, different⟩ :
      ∃ first second,
        Database.merge repeatingUnits = .ok first ∧
          Database.merge shuffledUnits = .ok second ∧
          first.conflicts.length = 1 ∧
          first.conflicts ≠ second.conflicts :=
    ⟨_, _, rfl, rfl, rfl, by decide⟩
  exact ⟨first, second, merged, otherMerged, oneConflict, different,
    (merge_reordered repeatingUnits_reordered).2 first second merged otherMerged⟩

end SymbolDatabase
