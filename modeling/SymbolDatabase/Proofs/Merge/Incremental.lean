import SymbolDatabase.Proofs.Merge.Outcome
import SymbolDatabase.Proofs.Names.Refusal

namespace SymbolDatabase

/-!
# Merging step by step

Absorbing databases one after another treats all that was accumulated as one input,
while a merge of the whole list numbers every input.  Verdicts only look at what is
held and at the input being taken in, so both ways settle the same symbols and find
the same disputes; and names are united in the same order, so both fail alike.
-/

namespace Edit

/-- Absorb databases one after another, and collect the conflicts. -/
def absorbAll :
    List Database → Edit (List Conflict)
  | [] =>
      pure []
  | input :: rest => do
      let found ← absorb input
      let later ← absorbAll rest
      pure (found ++ later)

/-- Absorbing stops at the first database that cannot be absorbed. -/
theorem absorbAll_cons_of_error
    {accumulated changed input : Database}
    {error : Error}
    (failed : absorb input accumulated = (.error error, changed))
    (rest : List Database) :
    absorbAll (input :: rest) accumulated = (.error error, changed) := by
  rw [absorbAll, bind_apply, failed]

/-- After a database was absorbed, the others are absorbed into the result. -/
theorem absorbAll_cons_of_ok
    {accumulated extended input : Database}
    {found : List Conflict}
    (absorbed : absorb input accumulated = (.ok found, extended))
    (rest : List Database) :
    absorbAll (input :: rest) accumulated =
      match absorbAll rest extended with
      | (.ok later, final) =>
          (.ok (found ++ later), final)
      | (.error error, final) =>
          (.error error, final) := by
  rw [absorbAll, bind_apply, absorbed]
  simp only
  rw [bind_apply]
  rcases absorbAll rest extended with ⟨later | later, final⟩ <;> rfl

end Edit

namespace Merge

open Edit

/-- What remains of uniting all names once the first database was absorbed. -/
theorem absorb_flatMap_cons
    (names : NameTable)
    (input : Database)
    (rest : List Database) :
    names.absorb ((input :: rest).flatMap fun input => input.names.names) =
      match names.absorb input.names.names with
      | (.ok (), extended) =>
          extended.absorb (rest.flatMap fun input => input.names.names)
      | (.error error, extended) =>
          (.error error, extended) := by
  have united :=
    NameTable.absorb_append names input.names.names
      (rest.flatMap fun input => input.names.names)
  rw [List.flatMap_cons]
  exact united

/-- Absorbing one by one settles all inputs whenever their names can be united. -/
theorem absorbAll_of_absorb_ok
    {accumulated : Database}
    {inputs : List Database}
    {names : NameTable}
    (wellFormed : accumulated.WellFormed)
    (inputsWellFormed : ∀ input ∈ inputs, input.WellFormed)
    (united :
      accumulated.names.absorb (inputs.flatMap fun input => input.names.names) =
        (.ok (), names)) :
    ∃ conflicts final,
      absorbAll inputs accumulated = (.ok conflicts, final) ∧
        Settles names accumulated.symbols accumulated.hasBaseTypes inputs final
          conflicts := by
  induction inputs generalizing accumulated with
  | nil =>
      obtain rfl : accumulated.names = names := by
        simpa [NameTable.absorb] using united
      exact ⟨[], accumulated, rfl, .nil accumulated⟩
  | cons input rest inductionHypothesis =>
      have inputWellFormed := inputsWellFormed input (by simp)
      rw [absorb_flatMap_cons] at united
      rcases namesAbsorbed : accumulated.names.absorb input.names.names with
        ⟨result | result, middleNames⟩
      · simp [namesAbsorbed] at united
      · rw [namesAbsorbed] at united
        obtain ⟨found, extended, absorbed, settled⟩ :=
          absorb_of_absorb_ok wellFormed inputWellFormed namesAbsorbed
        have extendedWellFormed :=
          wellFormed.of_absorb inputWellFormed absorbed
        rw [← settled.names] at united
        obtain ⟨later, final, restAbsorbed, restSettled⟩ :=
          inductionHypothesis extendedWellFormed
            (fun other member => inputsWellFormed other (by simp [member])) united
        refine ⟨found ++ later, final, ?_, ?_⟩
        · rw [absorbAll_cons_of_ok absorbed, restAbsorbed]
        · exact settled.append restSettled

/-- Absorbing one by one fails whenever uniting the names does, for the same reason. -/
theorem absorbAll_of_absorb_error
    {accumulated : Database}
    {inputs : List Database}
    {error : Error}
    {names : NameTable}
    (wellFormed : accumulated.WellFormed)
    (inputsWellFormed : ∀ input ∈ inputs, input.WellFormed)
    (refused :
      accumulated.names.absorb (inputs.flatMap fun input => input.names.names) =
        (.error error, names)) :
    (absorbAll inputs accumulated).1 = .error error := by
  induction inputs generalizing accumulated with
  | nil =>
      simp [NameTable.absorb] at refused
  | cons input rest inductionHypothesis =>
      have inputWellFormed := inputsWellFormed input (by simp)
      rw [absorb_flatMap_cons] at refused
      rcases namesAbsorbed : accumulated.names.absorb input.names.names with
        ⟨result | result, middleNames⟩
      · obtain ⟨rfl, rfl⟩ : result = error ∧ middleNames = names := by
          simpa [namesAbsorbed] using refused
        rw [absorbAll_cons_of_error (absorb_of_absorb_error namesAbsorbed)]
      · rw [namesAbsorbed] at refused
        obtain ⟨found, extended, absorbed, settled⟩ :=
          absorb_of_absorb_ok wellFormed inputWellFormed namesAbsorbed
        have extendedWellFormed :=
          wellFormed.of_absorb inputWellFormed absorbed
        rw [← settled.names] at refused
        have restRefused :=
          inductionHypothesis extendedWellFormed
            (fun other member => inputsWellFormed other (by simp [member])) refused
        rw [absorbAll_cons_of_ok absorbed]
        rcases ran : absorbAll rest extended with ⟨answer | answer, final⟩
        · rw [ran] at restRefused
          exact restRefused
        · rw [ran] at restRefused
          cases restRefused

/-- Uniting names fails only when a hash stands for two texts. -/
theorem isCollision_of_absorb_error
    {table extended : NameTable}
    {names : List Name}
    {error : Error}
    (refused : table.absorb names = (.error error, extended)) :
    ∃ hash existing incoming,
      error = .nameCollision hash existing incoming := by
  obtain ⟨front, name, rest, -, -, nameRefused⟩ := NameTable.absorb_eq_error refused
  by_cases isAbsent : name.hash = NameHash.absent
  · rw [NameTable.bind, if_pos isAbsent] at nameRefused
    exact ⟨_, _, _, (Except.error.inj nameRefused).symm⟩
  · obtain ⟨existing, -, -, reported⟩ := NameTable.exists_of_bind_error isAbsent nameRefused
    exact ⟨_, _, _, reported⟩

/-- The names of a merge, and those of further inputs, unite like those of all inputs. -/
theorem absorb_merged_names
    {front : List Database}
    {first : MergeOutcome}
    (frontWellFormed : ∀ input ∈ front, input.WellFormed)
    (merged : Database.merge front = .ok first)
    (rest : List Database) :
    NameTable.empty.absorb
        ((first.database :: rest).flatMap fun input => input.names.names) =
      NameTable.empty.absorb
        ((front ++ rest).flatMap fun input => input.names.names) := by
  have taken :=
    NameTable.absorb_names_self
      (Database.WellFormed.merge frontWellFormed merged).names
  rw [absorb_flatMap_cons, taken, List.flatMap_append, NameTable.absorb_append,
    Database.absorb_of_merge_ok merged]

end Merge

open Merge

/--
Merging a list at once is merging it step by step.  Absorbing the databases one after
another into nothing leads to the same database and reports, or fails with the same
collision of names; and a merge of the first few may stand for them in the merge of
the whole list.
-/
theorem merge_eq_absorbAll
    {inputs : List Database}
    (reachable : ∀ input ∈ inputs, input.Reachable) :
    (∀ whole,
      Database.merge inputs = .ok whole →
        ∃ conflicts accumulated,
          Edit.absorbAll inputs Database.empty = (.ok conflicts, accumulated) ∧
            Agree whole.database whole.conflicts accumulated conflicts) ∧
      (∀ error,
        Database.merge inputs = .error error →
          (∃ hash existing incoming,
            error = .nameCollision hash existing incoming) ∧
            (Edit.absorbAll inputs Database.empty).1 = .error error) ∧
      ∀ front rest first,
        inputs = front ++ rest →
        Database.merge front = .ok first →
          (∀ whole,
            Database.merge inputs = .ok whole →
              ∃ later,
                Database.merge (first.database :: rest) = .ok later ∧
                  Agree whole.database whole.conflicts later.database
                    (first.conflicts ++ later.conflicts)) ∧
            ∀ error,
              Database.merge inputs = .error error →
                Database.merge (first.database :: rest) = .error error := by
  have wellFormed : ∀ input ∈ inputs, input.WellFormed :=
    fun input member => (reachable input member).wellFormed
  refine ⟨?_, ?_, ?_⟩
  · intro whole merged
    obtain ⟨conflicts, accumulated, absorbed, settled⟩ :=
      absorbAll_of_absorb_ok .empty wellFormed
        (Database.absorb_of_merge_ok merged)
    have nothingHeld : Database.empty.symbols = fun _ => [] := by
      funext kind
      simp [Database.symbols, Database.empty]
    rw [nothingHeld] at settled
    exact ⟨conflicts, accumulated, absorbed,
      (Database.settles_of_merge_ok wellFormed merged).agree settled⟩
  · intro error refused
    obtain ⟨names, notUnited⟩ := Database.absorb_of_merge_error refused
    exact ⟨isCollision_of_absorb_error notUnited,
      absorbAll_of_absorb_error .empty wellFormed notUnited⟩
  · rintro front rest first rfl frontMerged
    have frontWellFormed : ∀ input ∈ front, input.WellFormed :=
      fun input member => wellFormed input (List.mem_append_left rest member)
    have restWellFormed : ∀ input ∈ first.database :: rest, input.WellFormed := by
      intro input member
      rcases List.mem_cons.mp member with rfl | later
      · exact .merge frontWellFormed frontMerged
      · exact wellFormed input (List.mem_append_right front later)
    have sameNames := absorb_merged_names frontWellFormed frontMerged rest
    constructor
    · intro whole merged
      have united := Database.absorb_of_merge_ok merged
      obtain ⟨later, laterMerged, laterSettled⟩ :=
        Database.merge_of_absorb_ok restWellFormed (sameNames.trans united)
      have frontSettled :=
        Database.settles_of_merge_ok frontWellFormed frontMerged
      exact ⟨later, laterMerged,
        (Database.settles_of_merge_ok wellFormed merged).agree
          (frontSettled.append laterSettled.of_cons)⟩
    · intro error refused
      obtain ⟨names, notUnited⟩ := Database.absorb_of_merge_error refused
      exact Database.merge_of_absorb_error (sameNames.trans notUnited)

/-- Three units with one conflict among them may be merged step by step. -/
theorem merge_eq_absorbAll_clashingUnits :
    ∃ whole conflicts accumulated,
      Database.merge clashingUnits = .ok whole ∧
        whole.conflicts.length = 1 ∧
        Edit.absorbAll clashingUnits Database.empty =
          (.ok conflicts, accumulated) ∧
        Agree whole.database whole.conflicts accumulated conflicts := by
  obtain ⟨conflicts, accumulated, absorbed, agree⟩ :=
    (merge_eq_absorbAll clashingUnits_reachable).1 _ rfl
  exact ⟨_, conflicts, accumulated, rfl, rfl, absorbed, agree⟩

end SymbolDatabase
