import Mathlib.Data.List.Induction
import SymbolDatabase.Proofs.Merge.Outcome

namespace SymbolDatabase

/-!
# The reference definition of a merge

The symbols of one kind are looked at as positions: which input, and where in it.  A
reference assigns a fate to every position by looking at fates of earlier inputs and
of the same input only.  There is exactly one such assignment, and a merge appends
and rejects the positions that it says, in their order.
-/

namespace Merge

/-- The symbol at a position of an input. -/
def symbolAt
    (sequences : List (List Symbol))
    (input position : Nat) :
    Option Symbol :=
  sequences[input]?.bind fun symbols => symbols[position]?

/-- A symbol stands at an appended position of an earlier input. -/
def AppendedBefore
    (sequences : List (List Symbol))
    (fate : Nat → Nat → Fate)
    (input : Nat)
    (symbol : Symbol) :
    Prop :=
  ∃ earlier position,
    earlier < input ∧
      symbolAt sequences earlier position = some symbol ∧
      fate earlier position = .appended

/-- The fates of all positions are as the reference definition of a merge says. -/
structure FollowsReference
    (sequences : List (List Symbol))
    (fate : Nat → Nat → Fate) :
    Prop where
  collapsed :
    ∀ {input position symbol},
      symbolAt sequences input position = some symbol →
      (fate input position = .collapsed ↔
        ∃ held,
          AppendedBefore sequences fate input held ∧
            held.sameDefinition symbol = true)
  rejected :
    ∀ {input position symbol},
      symbolAt sequences input position = some symbol →
      (fate input position = .rejected ↔
        fate input position ≠ .collapsed ∧
          (∃ held,
            AppendedBefore sequences fate input held ∧
              held.key = symbol.key) ∧
          ¬ ∃ other repeated,
            symbolAt sequences input other = some repeated ∧
              repeated.key = symbol.key ∧
              fate input other = .collapsed)

/-- The symbols at the positions with a fate, in the order of the positions. -/
def withFate
    (sequences : List (List Symbol))
    (fate : Nat → Nat → Fate)
    (wanted : Fate) :
    List Symbol :=
  sequences.zipIdx.flatMap fun (symbols, input) =>
    (symbols.zipIdx.filter fun (_, position) =>
      fate input position = wanted).map Prod.fst

namespace FollowsReference

/-- What the earlier inputs append is the same for two references that agree on them. -/
theorem appendedBefore_congr
    {sequences : List (List Symbol)}
    {first second : Nat → Nat → Fate}
    {input : Nat}
    (agree :
      ∀ earlier, earlier < input →
        ∀ position symbol,
          symbolAt sequences earlier position = some symbol →
          first earlier position = second earlier position)
    (symbol : Symbol) :
    AppendedBefore sequences first input symbol ↔
      AppendedBefore sequences second input symbol := by
  constructor
  · rintro ⟨earlier, position, before, stands, appended⟩
    refine ⟨earlier, position, before, stands, ?_⟩
    rw [← agree earlier before position symbol stands]
    exact appended
  · rintro ⟨earlier, position, before, stands, appended⟩
    refine ⟨earlier, position, before, stands, ?_⟩
    rw [agree earlier before position symbol stands]
    exact appended

/-- Two references give every position the same fate. -/
theorem unique
    {sequences : List (List Symbol)}
    {first second : Nat → Nat → Fate}
    (firstFollows : FollowsReference sequences first)
    (secondFollows : FollowsReference sequences second)
    (input position : Nat)
    (symbol : Symbol)
    (stands : symbolAt sequences input position = some symbol) :
    first input position = second input position := by
  -- The fates of an input only look at earlier inputs and at collapses of its own.
  induction input using Nat.strongRecOn generalizing position symbol with
  | ind input inductionHypothesis =>
      have sameAppended :=
        appendedBefore_congr
          (fun earlier before position symbol stands =>
            inductionHypothesis earlier before position symbol stands)
      have sameCollapsed :
          ∀ {position symbol},
            symbolAt sequences input position = some symbol →
            (first input position = .collapsed ↔
              second input position = .collapsed) := by
        intro position symbol stands
        rw [firstFollows.collapsed stands, secondFollows.collapsed stands]
        simp only [sameAppended]
      have sameRepeats :
          (∃ other repeated,
            symbolAt sequences input other = some repeated ∧
              repeated.key = symbol.key ∧
              first input other = .collapsed) ↔
            ∃ other repeated,
              symbolAt sequences input other = some repeated ∧
                repeated.key = symbol.key ∧
                second input other = .collapsed := by
        constructor
        · rintro ⟨other, repeated, otherStands, sameKey, collapsed⟩
          exact ⟨other, repeated, otherStands, sameKey,
            (sameCollapsed otherStands).mp collapsed⟩
        · rintro ⟨other, repeated, otherStands, sameKey, collapsed⟩
          exact ⟨other, repeated, otherStands, sameKey,
            (sameCollapsed otherStands).mpr collapsed⟩
      have sameRejected :
          first input position = .rejected ↔
            second input position = .rejected := by
        rw [firstFollows.rejected stands, secondFollows.rejected stands,
          sameRepeats, Ne, Ne, sameCollapsed stands]
        simp only [sameAppended]
      have collapsedHere := sameCollapsed stands
      cases firstFate : first input position <;>
        cases secondFate : second input position <;>
        simp_all

end FollowsReference

/-- What is held when an input comes up. -/
def heldBefore
    (sequences : List (List Symbol))
    (input : Nat) :
    List Symbol :=
  (sequences.take input).foldl settle []

/-- The fate of a position, computed from what is held when its input comes up. -/
def fateAt
    (sequences : List (List Symbol))
    (input position : Nat) :
    Fate :=
  match symbolAt sequences input position with
  | some symbol =>
      verdict (heldBefore sequences input) (sequences.getD input []) symbol
  | none =>
      .appended

/-- A position holds a symbol exactly if its input does so there. -/
theorem symbolAt_eq_some_iff
    {sequences : List (List Symbol)}
    {input position : Nat}
    {symbol : Symbol} :
    symbolAt sequences input position = some symbol ↔
      ∃ symbols,
        sequences[input]? = some symbols ∧ symbols[position]? = some symbol := by
  simp [symbolAt, Option.bind_eq_some_iff]

theorem symbolAt_of_listed
    {sequences : List (List Symbol)}
    {input : Nat}
    {symbols : List Symbol}
    (listed : sequences[input]? = some symbols)
    (position : Nat) :
    symbolAt sequences input position = symbols[position]? := by
  rw [symbolAt, listed, Option.bind_some]

/-- The fate of a symbol in an input is its verdict there. -/
theorem fateAt_eq_verdict
    {sequences : List (List Symbol)}
    {input position : Nat}
    {symbols : List Symbol}
    {symbol : Symbol}
    (listed : sequences[input]? = some symbols)
    (stands : symbols[position]? = some symbol) :
    fateAt sequences input position =
      verdict (heldBefore sequences input) symbols symbol := by
  simp [fateAt, symbolAt, listed, stands, List.getD]

/-- What is held after an input is settled by it. -/
theorem heldBefore_succ
    {sequences : List (List Symbol)}
    {input : Nat}
    {symbols : List Symbol}
    (listed : sequences[input]? = some symbols) :
    heldBefore sequences (input + 1) =
      settle (heldBefore sequences input) symbols := by
  simp [heldBefore, List.take_add_one, listed]

/-- Behind the last input nothing more gets held. -/
theorem heldBefore_succ_of_none
    {sequences : List (List Symbol)}
    {input : Nat}
    (missing : sequences[input]? = none) :
    heldBefore sequences (input + 1) = heldBefore sequences input := by
  simp [heldBefore, List.take_add_one, missing]

/-- What is appended before the next input is so before this one or by this one. -/
theorem appendedBefore_succ_iff
    {sequences : List (List Symbol)}
    {fate : Nat → Nat → Fate}
    {input : Nat}
    {symbol : Symbol} :
    AppendedBefore sequences fate (input + 1) symbol ↔
      AppendedBefore sequences fate input symbol ∨
        ∃ position,
          symbolAt sequences input position = some symbol ∧
            fate input position = .appended := by
  constructor
  · rintro ⟨earlier, position, before, stands, appended⟩
    rcases Nat.lt_succ_iff_lt_or_eq.mp before with earlierStill | rfl
    · exact Or.inl ⟨earlier, position, earlierStill, stands, appended⟩
    · exact Or.inr ⟨position, stands, appended⟩
  · rintro (⟨earlier, position, before, stands, appended⟩ |
      ⟨position, stands, appended⟩)
    · exact ⟨earlier, position, Nat.lt_succ_of_lt before, stands, appended⟩
    · exact ⟨input, position, Nat.lt_succ_self input, stands, appended⟩

/-- What is held are the symbols at appended positions of earlier inputs. -/
theorem mem_heldBefore_iff
    {sequences : List (List Symbol)}
    {input : Nat}
    {symbol : Symbol} :
    symbol ∈ heldBefore sequences input ↔
      AppendedBefore sequences (fateAt sequences) input symbol := by
  induction input with
  | zero =>
      simp [heldBefore, AppendedBefore]
  | succ input inductionHypothesis =>
      rw [appendedBefore_succ_iff, ← inductionHypothesis]
      cases listed : sequences[input]? with
      | none =>
          simp [heldBefore_succ_of_none listed, symbolAt, listed]
      | some symbols =>
          rw [heldBefore_succ listed, settle, List.mem_append]
          apply or_congr_right
          rw [List.mem_filter, decide_eq_true_eq]
          simp only [symbolAt_of_listed listed]
          constructor
          · rintro ⟨member, appended⟩
            obtain ⟨position, stands⟩ := List.mem_iff_getElem?.mp member
            exact ⟨position, stands,
              (fateAt_eq_verdict listed stands).trans appended⟩
          · rintro ⟨position, stands, appended⟩
            exact ⟨List.mem_of_getElem? stands,
              (fateAt_eq_verdict listed stands).symm.trans appended⟩

/-- The positions that collapse are those of symbols that are held already. -/
theorem fateAt_eq_collapsed_iff
    {sequences : List (List Symbol)}
    {input position : Nat}
    {symbol : Symbol}
    (stands : symbolAt sequences input position = some symbol) :
    fateAt sequences input position = .collapsed ↔
      isHeld (heldBefore sequences input) symbol = true := by
  obtain ⟨symbols, listed, found⟩ := symbolAt_eq_some_iff.mp stands
  rw [fateAt_eq_verdict listed found, verdict_eq_collapsed_iff]

/-- An input contributes to a key exactly if a position of the key collapses. -/
theorem contributes_heldBefore_iff
    {sequences : List (List Symbol)}
    {input : Nat}
    {symbols : List Symbol}
    (listed : sequences[input]? = some symbols)
    (symbol : Symbol) :
    contributes (heldBefore sequences input) symbols symbol = true ↔
      ∃ other repeated,
        symbolAt sequences input other = some repeated ∧
          repeated.key = symbol.key ∧
          fateAt sequences input other = .collapsed := by
  rw [contributes_iff]
  constructor
  · rintro ⟨repeated, member, sameKey, held⟩
    obtain ⟨other, found⟩ := List.mem_iff_getElem?.mp member
    have stands : symbolAt sequences input other = some repeated := by
      rw [symbolAt_of_listed listed, found]
    exact ⟨other, repeated, stands, sameKey, (fateAt_eq_collapsed_iff stands).mpr held⟩
  · rintro ⟨other, repeated, stands, sameKey, collapsed⟩
    have held := (fateAt_eq_collapsed_iff stands).mp collapsed
    rw [symbolAt_of_listed listed] at stands
    exact ⟨repeated, List.mem_of_getElem? stands, sameKey, held⟩

/-- The computed fates are as the reference says. -/
theorem followsReference_fateAt
    (sequences : List (List Symbol)) :
    FollowsReference sequences (fateAt sequences) := by
  constructor
  · intro input position symbol stands
    rw [fateAt_eq_collapsed_iff stands]
    simp only [isHeld, List.any_eq_true, mem_heldBefore_iff]
  · intro input position symbol stands
    obtain ⟨symbols, listed, found⟩ := symbolAt_eq_some_iff.mp stands
    have occupied :
        isOccupied (heldBefore sequences input) symbol = true ↔
          ∃ held,
            AppendedBefore sequences (fateAt sequences) input held ∧
              held.key = symbol.key := by
      simp only [isOccupied, List.any_eq_true, mem_heldBefore_iff,
        Symbol.sameKey_iff]
    rw [Ne, fateAt_eq_collapsed_iff stands, ← occupied,
      ← contributes_heldBefore_iff listed symbol, fateAt_eq_verdict listed found,
      verdict]
    cases isHeld (heldBefore sequences input) symbol <;>
      cases isOccupied (heldBefore sequences input) symbol <;>
      cases contributes (heldBefore sequences input) symbols symbol <;>
      simp

/-- The symbols with a computed fate are those with that verdict, input by input. -/
theorem withFate_fateAt
    (sequences : List (List Symbol))
    (wanted : Fate) :
    withFate sequences (fateAt sequences) wanted =
      sequences.zipIdx.flatMap fun (symbols, input) =>
        symbols.filter fun symbol =>
          verdict (heldBefore sequences input) symbols symbol = wanted := by
  unfold withFate
  apply List.flatMap_congr
  rintro ⟨symbols, input⟩ listedAt
  have listed : sequences[input]? = some symbols :=
    List.mem_zipIdx_iff_getElem?.mp listedAt
  have byVerdict :
      (symbols.zipIdx.filter fun (_, position) =>
          fateAt sequences input position = wanted) =
        symbols.zipIdx.filter fun entry =>
          verdict (heldBefore sequences input) symbols entry.1 = wanted := by
    apply List.filter_congr
    rintro ⟨symbol, position⟩ foundAt
    have found : symbols[position]? = some symbol :=
      List.mem_zipIdx_iff_getElem?.mp foundAt
    simp only [fateAt_eq_verdict listed found]
  have projected :
      (symbols.zipIdx.filter fun entry =>
          verdict (heldBefore sequences input) symbols entry.1 = wanted).map
        Prod.fst =
        (symbols.zipIdx.map Prod.fst).filter fun symbol =>
          verdict (heldBefore sequences input) symbols symbol = wanted := by
    rw [List.filter_map]
    rfl
  simp only [byVerdict]
  rw [projected, List.zipIdx_map_fst]

/-- What is held before an earlier input does not depend on the last one. -/
theorem heldBefore_append_of_lt
    {front : List (List Symbol)}
    {last : List Symbol}
    {input : Nat}
    (inFront : input < front.length) :
    heldBefore (front ++ [last]) input = heldBefore front input := by
  have short : input - front.length = 0 :=
    Nat.sub_eq_zero_of_le (Nat.le_of_lt inFront)
  simp [heldBefore, List.take_append, short]

/-- A last input adds its own symbols with a fate behind those of the others. -/
theorem withFate_append_singleton
    (front : List (List Symbol))
    (last : List Symbol)
    (wanted : Fate) :
    withFate (front ++ [last]) (fateAt (front ++ [last])) wanted =
      withFate front (fateAt front) wanted ++
        last.filter fun symbol =>
          verdict (front.foldl settle []) last symbol = wanted := by
  have lastHeld :
      heldBefore (front ++ [last]) front.length = front.foldl settle [] := by
    simp [heldBefore]
  rw [withFate_fateAt, withFate_fateAt, List.zipIdx_append, List.flatMap_append]
  congr 1
  · apply List.flatMap_congr
    rintro ⟨symbols, input⟩ listedAt
    have inFront : input < front.length := by
      simpa using (List.mem_zipIdx listedAt).2.1
    simp only [heldBefore_append_of_lt inFront]
  · simp [lastHeld]

/-- What gets settled in the end are the symbols at appended positions, in order. -/
theorem foldl_settle_eq_withFate
    (sequences : List (List Symbol)) :
    sequences.foldl settle [] =
      withFate sequences (fateAt sequences) .appended := by
  induction sequences using List.reverseRecOn with
  | nil =>
      rfl
  | append_singleton front last inductionHypothesis =>
      rw [List.foldl_append, withFate_append_singleton, ← inductionHypothesis]
      rfl

/-- The rejected symbols of an input are those with that verdict, in order. -/
theorem map_snd_disputes
    (held incoming : List Symbol) :
    (disputes held incoming).map Prod.snd =
      incoming.filter fun symbol => verdict held incoming symbol = .rejected := by
  unfold disputes
  rw [List.map_filterMap, ← List.filterMap_eq_filter]
  apply List.filterMap_congr
  intro symbol _
  by_cases isRejected : verdict held incoming symbol = .rejected
  · have occupied : isOccupied held symbol = true :=
      (verdict_eq_rejected_iff.mp isRejected).2.1
    have found :
        (held.find? fun other => other.sameKey symbol).isSome = true := by
      rw [isSome_find?_sameKey]
      exact occupied
    obtain ⟨kept, keptFound⟩ := Option.isSome_iff_exists.mp found
    simp [isRejected, keptFound, Option.guard]
  · simp [isRejected, Option.guard]

/-- The disputes of all inputs are about the rejected positions, in order. -/
theorem map_snd_disputesAll
    (sequences : List (List Symbol)) :
    (disputesAll sequences []).map Prod.snd =
      withFate sequences (fateAt sequences) .rejected := by
  induction sequences using List.reverseRecOn with
  | nil =>
      rfl
  | append_singleton front last inductionHypothesis =>
      rw [disputesAll_append, List.map_append, inductionHypothesis,
        withFate_append_singleton]
      simp [disputesAll, map_snd_disputes]

/-- The rejected symbols of the reports on a kind are the second sides of disputes. -/
theorem rejected_of_contents
    {kind : Kind}
    {conflicts : List Conflict}
    {disputed : List (Symbol × Symbol)}
    (contents :
      Conflict.contentsOf kind conflicts = disputed.map disputeContent) :
    ((conflicts.filter fun conflict => conflict.kind = kind).map
        fun conflict => conflict.rejected.symbol) =
      disputed.map Prod.snd := by
  have projected := congrArg (List.map fun content => content.2.2) contents
  simpa [Conflict.contentsOf, Conflict.content, disputeContent,
    Function.comp_def] using projected

end Merge

open Merge

/--
A merge meets its reference definition.  In every kind, the reference gives every
position exactly one fate; the merged symbols are those at appended positions, and
the symbols rejected in conflict reports are those at rejected positions, both in the
order of the positions.
-/
theorem merge_follows_reference
    {inputs : List Database}
    {outcome : MergeOutcome}
    (reachable : ∀ input ∈ inputs, input.Reachable)
    (merged : Database.merge inputs = .ok outcome)
    (kind : Kind) :
    ∃ fate,
      FollowsReference (sequences inputs kind) fate ∧
        (∀ other,
          FollowsReference (sequences inputs kind) other →
          ∀ input position symbol,
            symbolAt (sequences inputs kind) input position = some symbol →
              other input position = fate input position) ∧
        outcome.database.symbols kind =
          withFate (sequences inputs kind) fate .appended ∧
        ((outcome.conflicts.filter fun conflict => conflict.kind = kind).map
            fun conflict => conflict.rejected.symbol) =
          withFate (sequences inputs kind) fate .rejected := by
  have wellFormed : ∀ input ∈ inputs, input.WellFormed :=
    fun input member => (reachable input member).wellFormed
  have settles := Database.settles_of_merge_ok wellFormed merged
  have follows := followsReference_fateAt (sequences inputs kind)
  refine ⟨_, follows, ?_, ?_, ?_⟩
  · intro other otherFollows input position symbol stands
    exact otherFollows.unique follows input position symbol stands
  · rw [settles.symbols kind, foldl_settle_eq_withFate]
  · rw [rejected_of_contents (settles.contents kind), map_snd_disputesAll]

/--
Of the constants of three units, the second unit's repetition collapses, its other
constant is appended, and the constant of the third unit is rejected.
-/
theorem merge_follows_reference_clashingUnits :
    ∃ outcome,
      Database.merge clashingUnits = .ok outcome ∧
        outcome.conflicts.length = 1 ∧
        ∃ fate,
          FollowsReference (sequences clashingUnits .enumerator) fate ∧
            (∀ other,
              FollowsReference (sequences clashingUnits .enumerator) other →
              ∀ input position symbol,
                symbolAt (sequences clashingUnits .enumerator) input position =
                    some symbol →
                  other input position = fate input position) ∧
            outcome.database.symbols .enumerator =
              withFate (sequences clashingUnits .enumerator) fate .appended ∧
            ((outcome.conflicts.filter fun conflict =>
                conflict.kind = Kind.enumerator).map
                fun conflict => conflict.rejected.symbol) =
              withFate (sequences clashingUnits .enumerator) fate .rejected := by
  exact ⟨_, rfl, rfl,
    merge_follows_reference clashingUnits_reachable rfl .enumerator⟩

end SymbolDatabase
