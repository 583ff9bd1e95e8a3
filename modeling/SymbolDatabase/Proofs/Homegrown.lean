import SymbolDatabase.Proofs.Growth
import SymbolDatabase.Proofs.Reload
import SymbolDatabase.Proofs.Store

namespace SymbolDatabase

/-!
# Homegrown databases

A database is homegrown if it came from nothing by operations, merges and loading files
that such databases were saved to, so nothing in it comes from a foreign file.  A foreign
file may list a definition twice.  A homegrown database does not: operations look for a
definition before they add it, merges keep apart what their inputs keep apart, and files
keep the symbols.  So whatever is stored is found again under the handle that it has.
-/

namespace Database

/--
Databases that come from nothing without foreign files.  The conflicts that are reported on
the way are as a condition admits.
-/
inductive Homegrown
    (admits : List Conflict → Prop) :
    Database → Prop
  | empty :
      Homegrown admits Database.empty
  | change
      (change : Change)
      {database : Database} :
      Homegrown admits database →
      Homegrown admits (change.apply database)
  | absorb
      {accumulated input : Database} :
      Homegrown admits accumulated →
      Homegrown admits input →
      (∀ conflicts, (Edit.absorb input accumulated).1 = .ok conflicts → admits conflicts) →
      Homegrown admits (Edit.absorb input accumulated).2
  | merge
      {inputs : List Database}
      {outcome : MergeOutcome} :
      (∀ input ∈ inputs, Homegrown admits input) →
      Database.merge inputs = .ok outcome →
      admits outcome.conflicts →
      Homegrown admits outcome.database
  | ofContainer
      {saved loaded : Database}
      {container : Bytes} :
      Homegrown admits saved →
      saved.toContainer = .ok container →
      Database.ofContainer container = .ok loaded →
      Homegrown admits loaded
  | ofDocument
      {saved loaded : Database} :
      Homegrown admits saved →
      Database.ofDocument saved.toDocument = .ok loaded →
      Homegrown admits loaded

variable {database loaded : Database} {admits : List Conflict → Prop}

/-- A client can hold what is homegrown. -/
theorem Homegrown.reachable
    (homegrown : database.Homegrown admits) :
    database.Reachable := by
  induction homegrown with
  | empty =>
      exact .empty
  | change change _ inductionHypothesis =>
      exact .change change inductionHypothesis
  | absorb _ _ _ accumulatedHypothesis inputHypothesis =>
      exact .absorb accumulatedHypothesis inputHypothesis
  | merge _ merged _ inductionHypothesis =>
      exact .merge inductionHypothesis merged
  | ofContainer _ _ loaded _ =>
      exact .ofContainer loaded
  | ofDocument _ loaded _ =>
      exact .ofDocument loaded

/-- What a document leads to that a database was saved to. -/
theorem WellFormed.eq_trimmed_of_ofDocument
    (wellFormed : database.WellFormed)
    (read : Database.ofDocument database.toDocument = .ok loaded) :
    loaded = database.trimmed := by
  rw [ofDocument_toDocument] at read
  have genuine := wellFormed.genuine_of_restore_snapshot read
  rw [wellFormed.restore_of_genuine genuine] at read
  exact (Except.ok.inj read).symm

/-- What a container leads to that a database was saved to. -/
theorem WellFormed.eq_trimmed_of_ofContainer
    (wellFormed : database.WellFormed)
    {container : Bytes}
    (saved : database.toContainer = .ok container)
    (read : Database.ofContainer container = .ok loaded) :
    loaded = database.trimmed := by
  rw [(ofContainer_of_toContainer saved).2] at read
  split at read
  · rw [← ofDocument_toDocument] at read
    exact wellFormed.eq_trimmed_of_ofDocument read
  · cases read

namespace Distinct

/-- Absorbing a database without repetitions adds none. -/
theorem absorb
    {accumulated input : Database}
    (wellFormed : accumulated.WellFormed)
    (inputWellFormed : input.WellFormed)
    (distinct : accumulated.Distinct)
    (inputDistinct : input.Distinct) :
    (Edit.absorb input accumulated).2.Distinct := by
  rcases united : accumulated.names.absorb input.names.names with ⟨result | result, names⟩
  · rw [Edit.absorb_of_absorb_error united]
    exact distinct
  · obtain ⟨conflicts, extended, absorbed, settles⟩ :=
      Edit.absorb_of_absorb_ok wellFormed inputWellFormed united
    rw [absorbed]
    refine Merge.distinct_of_nodup fun kind => ?_
    rw [settles.symbols kind]
    exact Merge.nodup_settle (Merge.nodup_definitions distinct kind)
      (Merge.nodup_definitions inputDistinct kind)

/-- A file of a database without repetitions keeps none. -/
theorem trimmed
    (wellFormed : database.WellFormed)
    (distinct : database.Distinct) :
    database.trimmed.Distinct := by
  intro kind
  rw [wellFormed.symbols_trimmed kind]
  exact distinct kind

end Distinct

/-- A homegrown database has no repetitions. -/
theorem Homegrown.distinct
    (homegrown : database.Homegrown admits) :
    database.Distinct := by
  induction homegrown with
  | empty =>
      exact .empty
  | change change homegrown inductionHypothesis =>
      exact inductionHypothesis.change homegrown.reachable.indexed change
  | absorb accumulated input _ accumulatedHypothesis inputHypothesis =>
      exact .absorb accumulated.reachable.wellFormed input.reachable.wellFormed
        accumulatedHypothesis inputHypothesis
  | merge inputs merged _ inductionHypothesis =>
      exact Merge.distinct_of_merge_ok
        (fun input member => (inputs input member).reachable.wellFormed) inductionHypothesis
        merged
  | ofContainer homegrown saved loaded inductionHypothesis =>
      have wellFormed := homegrown.reachable.wellFormed
      rw [wellFormed.eq_trimmed_of_ofContainer saved loaded]
      exact inductionHypothesis.trimmed wellFormed
  | ofDocument homegrown loaded inductionHypothesis =>
      have wellFormed := homegrown.reachable.wellFormed
      rw [wellFormed.eq_trimmed_of_ofDocument loaded]
      exact inductionHypothesis.trimmed wellFormed

/-- Without repetitions, handles of symbols with one definition are the same. -/
theorem Distinct.handle_eq
    (distinct : database.Distinct)
    {handle other : Handle}
    {symbol repeated : Symbol}
    (holds : database.store.Holds handle symbol)
    (otherHolds : database.store.Holds other repeated)
    (same : symbol.sameDefinition repeated = true) :
    handle = other := by
  have kind : handle.kind = other.kind := by
    rw [← holds.kind, ← otherHolds.kind]
    exact Symbol.kind_eq_of_sameDefinition same
  have name : handle.name = other.name := by
    rw [← holds.name, ← otherHolds.name]
    exact Symbol.name_eq_of_sameDefinition same
  have found := holds.found
  have otherFound := otherHolds.found
  rw [Store.get?_eq_getElem?] at found otherFound
  rw [← kind] at otherFound
  have position := distinct.position_eq found otherFound same
  cases handle
  cases other
  simp_all

/-- A definition that is stored once is found under its handle, and nothing is added. -/
theorem Distinct.add_of_holds
    (distinct : database.Distinct)
    (indexed : database.store.Indexed)
    {handle : Handle}
    {symbol again : Symbol}
    (holds : database.store.Holds handle symbol)
    (same : symbol.sameDefinition again = true) :
    database.store.add again = ((handle, false), database.store) := by
  -- The index is complete, so the definition cannot be missed; and what is found for it is
  -- the stored symbol, as no other one has this definition.
  cases found : (database.store.shelf again.kind).findSame? again with
  | none =>
      have noneSame := (indexed again.kind).findSame?_eq_none_iff.mp found
      have sameKind := Symbol.kind_eq_of_sameDefinition same
      rw [noneSame symbol (sameKind ▸ holds.mem_symbols)] at same
      cases same
  | some position =>
      have added :
          database.store.add again =
            ((⟨again.kind, again.name, position⟩, false), database.store) := by
        simp [Store.add, found]
      obtain ⟨held, answerHolds, heldSame⟩ := database.store.exists_holds_add again
      rw [added] at answerHolds ⊢
      have isHandle := distinct.handle_eq answerHolds holds
        (Symbol.equivalence_sameDefinition.trans heldSame
          (Symbol.equivalence_sameDefinition.symm same))
      exact congrArg (fun answer => ((answer, false), database.store)) isHandle

end Database

namespace Slot

/-- Two slots differ in their names, offsets and array lengths at most. -/
def Rewords
    (slot other : Slot) :
    Prop :=
  other =
    { slot with
      name := other.name
      offset := other.offset
      arrayLength := other.arrayLength }

theorem Rewords.projection_eq
    {slot other : Slot}
    (rewords : slot.Rewords other) :
    slot.projection = other.projection := by
  rw [rewords]
  rfl

end Slot

/-- A signature has the identifier of another one, and its slots differ in details only. -/
structure Signature.Redeclares
    (signature again : Signature) :
    Prop where
  identifier :
    signature.identifier = again.identifier
  result :
    Option.Rel Slot.Rewords signature.result again.result
  parameters :
    List.Forall₂ Slot.Rewords signature.parameters again.parameters

/-- Such signatures agree. -/
theorem Signature.Redeclares.agrees
    {signature again : Signature}
    (redeclares : signature.Redeclares again) :
    signature.agrees again = true := by
  have result :
      signature.result.map Slot.projection = again.result.map Slot.projection := by
    obtain ⟨_, result, _⟩ := signature
    obtain ⟨_, againResult, _⟩ := again
    cases redeclares.result with
    | some rewords =>
        exact congrArg some rewords.projection_eq
    | none =>
        rfl
  have parameters :
      signature.parameters.map Slot.projection = again.parameters.map Slot.projection := by
    rw [← List.forall₂_eq_eq_eq, List.forall₂_map_left_iff, List.forall₂_map_right_iff]
    exact redeclares.parameters.imp fun _ _ rewords => rewords.projection_eq
  simp [Signature.agrees, redeclares.identifier, result, parameters]

/-- A function or a method is declared again with the same identifier and other details. -/
inductive Symbol.Redeclares : Symbol → Symbol → Prop
  | function
      (name parent : NameHash)
      {signature again : Signature}
      (redeclares : signature.Redeclares again) :
      Redeclares ⟨name, parent, .function signature⟩ ⟨name, parent, .function again⟩
  | method
      (name parent : NameHash)
      {signature again : Signature}
      (redeclares : signature.Redeclares again) :
      Redeclares ⟨name, parent, .method signature⟩ ⟨name, parent, .method again⟩

/-- What is declared again has the same definition. -/
theorem Symbol.Redeclares.sameDefinition
    {symbol again : Symbol}
    (redeclares : symbol.Redeclares again) :
    symbol.sameDefinition again = true := by
  cases redeclares with
  | function name parent redeclares | method name parent redeclares =>
      simp [Symbol.sameDefinition, Body.agrees, redeclares.agrees]

/--
A homegrown database stores no definition twice, whatever conflicts were met on the way.
So adding what is stored once more, or a function or method that differs in the names,
offsets and array lengths of its slots only, answers the handle of what is stored, tells
that it is not new, and changes nothing.
-/
theorem definitions_stored_once
    {database : Database}
    (homegrown : database.Homegrown fun _ => True) :
    (∀ (kind other : Kind) (position place : Nat) (symbol repeated : Symbol),
      (database.symbols kind)[position]? = some symbol →
      (database.symbols other)[place]? = some repeated →
      symbol.sameDefinition repeated = true →
        kind = other ∧ position = place) ∧
      ∀ handle symbol again,
        database.store.Holds handle symbol →
        again = symbol ∨ symbol.Redeclares again →
          database.store.add again = ((handle, false), database.store) ∧
            Edit.addSymbol again database = (.ok handle, database) := by
  have distinct := homegrown.distinct
  constructor
  · intro kind other position place symbol repeated there repeatedThere same
    have sorted := homegrown.reachable.wellFormed.sorted
    have sameKind : symbol.kind = repeated.kind :=
      congrArg Prod.fst (Symbol.key_eq_of_sameDefinition same)
    rw [sorted kind symbol (List.mem_of_getElem? there),
      sorted other repeated (List.mem_of_getElem? repeatedThere)] at sameKind
    subst sameKind
    exact ⟨rfl, distinct.position_eq there repeatedThere same⟩
  · intro handle symbol again holds isRepeated
    have same : symbol.sameDefinition again = true := by
      rcases isRepeated with rfl | redeclares
      · exact again.sameDefinition_self
      · exact redeclares.sameDefinition
    have found := distinct.add_of_holds homegrown.reachable.indexed holds same
    refine ⟨found, ?_⟩
    rw [Edit.addSymbol_eq, found]

/-- A function with a parameter of the given name. -/
def declaredFunction
    (parameter : NameHash) :
    Symbol :=
  let slot : Slot :=
    { name := parameter
      type := 5
      passing := .value
      isConst := false
      offset := 0
      arrayLength := 0 }
  ⟨6, 0, .function ⟨11, none, [slot]⟩⟩

/-- A unit with this function, and with a constant in the given scope. -/
def declaringUnit
    (parameter scope : NameHash) :
    Database :=
  Merge.addedUnit [declaredFunction parameter, ⟨7, scope, .enumerator 0⟩]

/--
Two units declare one function, and constants that clash.  What absorbing one into the other
leaves has the function of the first unit, and finds it under its handle when the function
is declared a third time.
-/
theorem definitions_stored_once_declaringUnits :
    ∃ conflict extended,
      Edit.absorb (declaringUnit 22 2) (declaringUnit 21 1) = (.ok [conflict], extended) ∧
        extended.symbols .function = [declaredFunction 21] ∧
        Edit.addSymbol (declaredFunction 23) extended =
          (.ok ⟨.function, 6, 0⟩, extended) := by
  obtain ⟨conflict, extended, absorbed, functions, found⟩ :
      ∃ conflict extended,
        Edit.absorb (declaringUnit 22 2) (declaringUnit 21 1) = (.ok [conflict], extended) ∧
          extended.symbols .function = [declaredFunction 21] ∧
          extended.store.get? ⟨.function, 6, 0⟩ = some (declaredFunction 21) :=
    ⟨_, _, rfl, rfl, rfl⟩
  have homegrown : extended.Homegrown fun _ => True := by
    have made :
        (Edit.absorb (declaringUnit 22 2) (declaringUnit 21 1)).2.Homegrown fun _ => True :=
      .absorb (.change (.addSymbol _) (.change (.addSymbol _) .empty))
        (.change (.addSymbol _) (.change (.addSymbol _) .empty)) fun _ _ => trivial
    rwa [absorbed] at made
  have redeclares : (declaredFunction 21).Redeclares (declaredFunction 23) :=
    .function 6 0 ⟨rfl, .none, .cons rfl .nil⟩
  have holds : extended.store.Holds ⟨.function, 6, 0⟩ (declaredFunction 21) :=
    ⟨found, rfl, rfl⟩
  obtain ⟨-, again⟩ := definitions_stored_once homegrown
  exact ⟨conflict, extended, absorbed, functions, (again _ _ _ holds (.inr redeclares)).2⟩

end SymbolDatabase
