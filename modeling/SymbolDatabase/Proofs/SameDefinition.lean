import SymbolDatabase.Proofs.Homegrown

namespace SymbolDatabase

/-!
# Between equality and the key

Having the same definition is coarser than equality, and finer than having the same key.
On functions and methods it is told by their slots, one place after another: it does not
depend on how slots are called and where they are, and it depends on their types, and on
which places there are.
-/

/-- Two slots differ in their types, in being constant or in how they hold their types. -/
def Slot.Retypes
    (slot other : Slot) :
    Prop :=
  slot.isConst ≠ other.isConst ∨ slot.type ≠ other.type ∨ slot.passing ≠ other.passing

/-- The projection of a slot keeps apart what differs in this. -/
theorem Slot.Retypes.projection_ne
    {slot other : Slot}
    (retypes : slot.Retypes other) :
    slot.projection ≠ other.projection := by
  intro same
  simp only [projection, Prod.mk.injEq] at same
  obtain ⟨isConst, type, passing⟩ := same
  rcases retypes with apart | apart | apart
  · exact apart isConst
  · exact apart type
  · exact apart passing

namespace Signature

/-- Where a slot can stand in a signature. -/
inductive Place where
  | result
  | parameter (position : Nat)
  deriving Repr, DecidableEq

/-- The slot at a place, if there is one. -/
def slotAt?
    (signature : Signature) :
    Place → Option Slot
  | .result =>
      signature.result
  | .parameter position =>
      signature.parameters[position]?

variable {first second : Signature}

/-- Signatures agree exactly if they do so in their identifiers and at every place. -/
theorem agrees_iff_slotAt? :
    first.agrees second = true ↔
      first.identifier = second.identifier ∧
        ∀ place,
          (first.slotAt? place).map Slot.projection =
            (second.slotAt? place).map Slot.projection := by
  simp only [agrees, Bool.and_eq_true, decide_eq_true_eq, and_assoc]
  refine and_congr_right fun _ => ?_
  constructor
  · rintro ⟨result, parameters⟩ (_ | position)
    · exact result
    · simpa [slotAt?] using congrArg (·[position]?) parameters
  · intro everywhere
    refine ⟨everywhere .result, List.ext_getElem? fun position => ?_⟩
    simpa [slotAt?] using everywhere (.parameter position)

/-- Signatures with a slot of different types at some place do not agree. -/
theorem agrees_eq_false_of_retypes
    {place : Place}
    {slot other : Slot}
    (there : first.slotAt? place = some slot)
    (otherThere : second.slotAt? place = some other)
    (retypes : slot.Retypes other) :
    first.agrees second = false := by
  rw [Bool.eq_false_iff]
  intro agree
  have same := (agrees_iff_slotAt?.mp agree).2 place
  rw [there, otherThere] at same
  exact retypes.projection_ne (Option.some.inj same)

/-- Signatures with different numbers of parameters do not agree. -/
theorem agrees_eq_false_of_length_ne
    (apart : first.parameters.length ≠ second.parameters.length) :
    first.agrees second = false := by
  rw [Bool.eq_false_iff]
  intro agree
  refine apart ?_
  simp only [agrees, Bool.and_eq_true, decide_eq_true_eq] at agree
  simpa using congrArg List.length agree.2

end Signature

/-- A body with another signature, if it is that of a function or method. -/
def Body.withSignature
    (signature : Signature) :
    Body → Body
  | .function _ =>
      .function signature
  | .method _ =>
      .method signature
  | body =>
      body

namespace Symbol

/-- A symbol with another signature, if it is a function or method. -/
def withSignature
    (symbol : Symbol)
    (signature : Signature) :
    Symbol :=
  { symbol with body := symbol.body.withSignature signature }

variable {symbol first second other : Symbol} {signature again : Signature}

/-- What has the same definition is compared with others alike. -/
theorem sameDefinition_congr
    (same : first.sameDefinition second = true)
    (other : Symbol) :
    first.sameDefinition other = second.sameDefinition other := by
  rw [Bool.eq_iff_iff, sameDefinition_iff, sameDefinition_iff, sameDefinition_iff.mp same]

/-- No size depends on the details that no definition depends on. -/
theorem size_definition
    (symbol : Symbol) :
    symbol.definition.size = symbol.size := by
  obtain ⟨name, parent, body⟩ := symbol
  cases body <;> rfl

/-- Symbols with the same definition agree in what tells symbols apart, and in size. -/
theorem components_of_sameDefinition
    (same : first.sameDefinition second = true) :
    first.kind = second.kind ∧
      first.name = second.name ∧
      first.parent = second.parent ∧
      first.identifier? = second.identifier? ∧
      first.size = second.size := by
  have identifier : first.identifier? = second.identifier? :=
    congrArg (fun key => key.2.2) (key_eq_of_sameDefinition same)
  have equal := sameDefinition_iff.mp same
  have parent : first.definition.parent = second.definition.parent := by
    rw [equal]
  have size : first.size = second.size := by
    rw [← size_definition first, equal, size_definition]
  exact ⟨kind_eq_of_sameDefinition same, name_eq_of_sameDefinition same, parent, identifier,
    size⟩

/-- With another signature, a function or method has its definition if these agree. -/
theorem sameDefinition_withSignature
    (callable : symbol.signature? = some signature)
    (again : Signature) :
    symbol.sameDefinition (symbol.withSignature again) = signature.agrees again := by
  obtain ⟨name, parent, body⟩ := symbol
  cases body with
  | function | method =>
      cases callable
      simp [sameDefinition, withSignature, Body.withSignature, Body.agrees]
  | _ =>
      cases callable

/-- A signature that agrees can replace that of a function or method in comparisons. -/
theorem sameDefinition_withSignature_congr
    (callable : symbol.signature? = some signature)
    (agree : signature.agrees again = true)
    (other : Symbol) :
    (symbol.withSignature again).sameDefinition other = symbol.sameDefinition other := by
  have same : symbol.sameDefinition (symbol.withSignature again) = true := by
    rw [sameDefinition_withSignature callable, agree]
  exact (sameDefinition_congr same other).symm

/-- A signature that does not agree makes another definition of a function or method. -/
theorem sameDefinition_withSignature_eq_false
    (callable : symbol.signature? = some signature)
    (disagree : signature.agrees again = false)
    (same : symbol.sameDefinition other = true) :
    (symbol.withSignature again).sameDefinition other = false := by
  rw [Bool.eq_false_iff]
  intro stillSame
  have unchanged : symbol.sameDefinition (symbol.withSignature again) = true :=
    equivalence_sameDefinition.trans same (equivalence_sameDefinition.symm stillSame)
  rw [sameDefinition_withSignature callable, disagree] at unchanged
  cases unchanged

end Symbol

/--
Having the same definition is an equivalence.  It is implied by being equal, and it implies
having the same key, scope and size.  For a function or method, nothing depends on the names,
offsets and array lengths in its signature.  But where a slot of a signature is of a different
type, constant or not, or held otherwise, or when there are more or less parameters, what had
the same definition has it no more.
-/
theorem sameDefinition_between_equality_and_key :
    Equivalence (fun first second : Symbol => first.sameDefinition second = true) ∧
      (∀ first second : Symbol,
        first = second →
          first.sameDefinition second = true) ∧
      (∀ first second : Symbol,
        first.sameDefinition second = true →
          (first.kind = second.kind ∧
            first.name = second.name ∧
            first.parent = second.parent ∧
            first.identifier? = second.identifier? ∧
            first.size = second.size) ∧
          first.sameKey second = true) ∧
      ∀ (symbol : Symbol) (signature again : Signature),
        symbol.signature? = some signature →
          (signature.Redeclares again →
            ∀ other,
              (symbol.withSignature again).sameDefinition other =
                symbol.sameDefinition other) ∧
          ∀ other,
            symbol.sameDefinition other = true →
              (∀ place slot changed,
                signature.slotAt? place = some slot →
                again.slotAt? place = some changed →
                slot.Retypes changed →
                  (symbol.withSignature again).sameDefinition other = false) ∧
              (signature.parameters.length ≠ again.parameters.length →
                (symbol.withSignature again).sameDefinition other = false) := by
  refine ⟨Symbol.equivalence_sameDefinition, ?equal, ?key, ?callable⟩
  case equal =>
    rintro symbol _ rfl
    exact symbol.sameDefinition_self
  case key =>
    intro first second same
    exact ⟨Symbol.components_of_sameDefinition same,
      Symbol.sameKey_iff.mpr (Symbol.key_eq_of_sameDefinition same)⟩
  case callable =>
    intro symbol signature again callable
    constructor
    · intro redeclares
      exact Symbol.sameDefinition_withSignature_congr callable redeclares.agrees
    · intro other same
      constructor
      · intro place slot changed there changedThere retypes
        exact Symbol.sameDefinition_withSignature_eq_false callable
          (Signature.agrees_eq_false_of_retypes there changedThere retypes) same
      · intro apart
        exact Symbol.sameDefinition_withSignature_eq_false callable
          (Signature.agrees_eq_false_of_length_ne apart) same

/--
A function keeps its definition when its parameter gets another name, offset and array
length.  It does not when the parameter is made constant, and when it is left out.
-/
theorem sameDefinition_between_equality_and_key_declaredFunction :
    let slot : Slot := ⟨21, 5, .value, false, 0, 0⟩
    let moved : Slot := ⟨22, 5, .value, false, 8, 3⟩
    let constant : Slot := { slot with isConst := true }
    let symbol := declaredFunction 21
    let redeclared := symbol.withSignature ⟨11, none, [moved]⟩
    (symbol.sameDefinition (declaredFunction 21) = true ∧
        symbol.sameDefinition redeclared = true ∧
        symbol.sameKey redeclared = true) ∧
      (symbol.withSignature ⟨11, none, [constant]⟩).sameDefinition redeclared = false ∧
      (symbol.withSignature ⟨11, none, []⟩).sameDefinition redeclared = false := by
  intro slot moved constant symbol redeclared
  obtain ⟨equivalence, ofEqual, told, callables⟩ := sameDefinition_between_equality_and_key
  have equal : symbol.sameDefinition (declaredFunction 21) = true :=
    ofEqual _ _ rfl
  have same : symbol.sameDefinition redeclared = true := by
    have unaffected :=
      (callables symbol ⟨11, none, [slot]⟩ ⟨11, none, [moved]⟩ rfl).1
        ⟨rfl, .none, .cons rfl .nil⟩
    exact equivalence.symm ((unaffected symbol).trans (equivalence.refl symbol))
  refine ⟨⟨equal, same, (told _ _ same).2⟩, ?_, ?_⟩
  · exact ((callables symbol ⟨11, none, [slot]⟩ ⟨11, none, [constant]⟩ rfl).2 _ same).1
      (.parameter 0) slot constant rfl rfl (.inl Bool.false_ne_true)
  · exact ((callables symbol ⟨11, none, [slot]⟩ ⟨11, none, []⟩ rfl).2 _ same).2 (by decide)

end SymbolDatabase
