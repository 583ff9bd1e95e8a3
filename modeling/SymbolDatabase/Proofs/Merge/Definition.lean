import Mathlib.Data.Multiset.MapFold
import SymbolDatabase.Proofs.Merge.Verdict

namespace SymbolDatabase

/-!
# Definitions of symbols

Two symbols have the same definition exactly if they are equal without the details that
no definition depends on: the names, offsets and array lengths in the signature of a
function or method.  So having the same definition is an equivalence, and a definition is
held exactly if it is among the definitions of the held symbols.
-/

namespace Slot

/-- The slot with a projection, without a name and a place. -/
def ofProjection
    (projection : Bool × NameHash × Passing) :
    Slot :=
  { name := NameHash.absent
    type := projection.2.1
    passing := projection.2.2
    isConst := projection.1
    offset := 0
    arrayLength := 0 }

theorem ofProjection_injective :
    Function.Injective ofProjection :=
  Function.LeftInverse.injective (g := projection) fun _ => rfl

/-- A slot without the details that no signature depends on. -/
def essence
    (slot : Slot) :
    Slot :=
  ofProjection slot.projection

end Slot

namespace Signature

/-- A signature without the details that no definition depends on. -/
def essence
    (signature : Signature) :
    Signature :=
  { signature with
    result := signature.result.map Slot.essence
    parameters := signature.parameters.map Slot.essence }

/-- Signatures agree exactly if they are equal without these details. -/
theorem agrees_iff
    {first second : Signature} :
    first.agrees second = true ↔ first.essence = second.essence := by
  have results :
      first.result.map Slot.essence = second.result.map Slot.essence ↔
        first.result.map Slot.projection = second.result.map Slot.projection := by
    rw [← (Option.map_injective Slot.ofProjection_injective).eq_iff, Option.map_map,
      Option.map_map]
    rfl
  have parameters :
      first.parameters.map Slot.essence = second.parameters.map Slot.essence ↔
        first.parameters.map Slot.projection =
          second.parameters.map Slot.projection := by
    rw [← (List.map_injective_iff.mpr Slot.ofProjection_injective).eq_iff,
      List.map_map, List.map_map]
    rfl
  simp [agrees, essence, results, parameters, and_assoc]

end Signature

namespace Body

/-- A body without the details that no definition depends on. -/
def essence : Body → Body
  | .function signature =>
      .function signature.essence
  | .method signature =>
      .method signature.essence
  | body =>
      body

/-- Bodies define the same thing exactly if they are equal without these details. -/
theorem agrees_iff
    {first second : Body} :
    first.agrees second = true ↔ first.essence = second.essence := by
  cases first <;> cases second <;> simp [agrees, essence, Signature.agrees_iff]

end Body

namespace Symbol

/-- A symbol without the details that no definition depends on. -/
def definition
    (symbol : Symbol) :
    Symbol :=
  { symbol with body := symbol.body.essence }

/-- Symbols have the same definition exactly if they are equal without these details. -/
theorem sameDefinition_iff
    {first second : Symbol} :
    first.sameDefinition second = true ↔ first.definition = second.definition := by
  simp [sameDefinition, definition, Body.agrees_iff, and_assoc]

/-- A symbol has the definition of itself. -/
theorem sameDefinition_self
    (symbol : Symbol) :
    symbol.sameDefinition symbol = true :=
  sameDefinition_iff.mpr rfl

/-- Having the same definition is an equivalence. -/
theorem equivalence_sameDefinition :
    Equivalence fun first second : Symbol => first.sameDefinition second = true where
  refl :=
    sameDefinition_self
  symm same := by
    rw [sameDefinition_iff] at same ⊢
    exact same.symm
  trans same later := by
    rw [sameDefinition_iff] at same later ⊢
    exact same.trans later

end Symbol

namespace Merge

/-- A definition is held exactly if it is among the definitions of the held symbols. -/
theorem isHeld_iff
    {held : List Symbol}
    {symbol : Symbol} :
    isHeld held symbol = true ↔ symbol.definition ∈ held.map Symbol.definition := by
  simp only [isHeld, List.any_eq_true, Symbol.sameDefinition_iff, List.mem_map]

/-- What one list or the other holds is held by both together. -/
theorem isHeld_append
    (held later : List Symbol)
    (symbol : Symbol) :
    isHeld (held ++ later) symbol = (isHeld held symbol || isHeld later symbol) :=
  List.any_append

/-- A listed symbol is held. -/
theorem isHeld_of_mem
    {held : List Symbol}
    {symbol : Symbol}
    (member : symbol ∈ held) :
    isHeld held symbol = true :=
  isHeld_iff.mpr (List.mem_map_of_mem member)

/--
Two lists that hold the same definitions, each once, match one to one with the same
definition in every pair.
-/
theorem rel_of_isHeld
    {first second : List Symbol}
    (firstNodup : (first.map Symbol.definition).Nodup)
    (secondNodup : (second.map Symbol.definition).Nodup)
    (same : isHeld first = isHeld second) :
    Multiset.Rel (fun one other : Symbol => one.sameDefinition other = true)
      (first : Multiset Symbol) (second : Multiset Symbol) := by
  have included :
      ∀ {one other : List Symbol},
        isHeld one = isHeld other →
        ∀ {definition},
          definition ∈ one.map Symbol.definition →
            definition ∈ other.map Symbol.definition := by
    intro one other agree definition member
    obtain ⟨symbol, listed, rfl⟩ := List.mem_map.mp member
    rw [← isHeld_iff, ← agree]
    exact isHeld_of_mem listed
  have permuted :
      (first.map Symbol.definition).Perm (second.map Symbol.definition) := by
    rw [List.perm_ext_iff_of_nodup firstNodup secondNodup]
    exact fun definition => ⟨included same, included same.symm⟩
  have equal :
      Multiset.map Symbol.definition (first : Multiset Symbol) =
        Multiset.map Symbol.definition (second : Multiset Symbol) :=
    Multiset.coe_eq_coe.mpr permuted
  have matched := Multiset.rel_map.mp (Multiset.rel_eq.mpr equal)
  exact matched.mono fun _ _ _ _ => Symbol.sameDefinition_iff.mpr

end Merge

end SymbolDatabase
