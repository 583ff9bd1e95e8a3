import SymbolDatabase.Proofs.Failure
import SymbolDatabase.Proofs.Merge.Inputs

namespace SymbolDatabase

/-!
# The names of a merge

The names of the inputs are united one after another, in the order of the inputs and then
of their tables, and the first one whose hash an earlier input binds to another text ends
the merge.  Nobody compares the inputs beforehand, and each of them alone binds a hash to
one text; so a merge fails exactly if two inputs bind a hash to different texts, in
whatever order they come, and otherwise binds every hash as the inputs do.
-/

/-- Where two relations agree on the items, the same items are repetitions under both. -/
theorem eraseDupsBy_congr
    {α : Type}
    {repeats others : α → α → Bool}
    (items : List α)
    (same :
      ∀ first ∈ items, ∀ second ∈ items, repeats first second = others first second) :
    items.eraseDupsBy repeats = items.eraseDupsBy others := by
  match items, same with
  | [], _ =>
      rfl
  | first :: rest, same =>
      have kept :
          (rest.filter fun item => repeats item first = false) =
            rest.filter fun item => others item first = false := by
        refine List.filter_congr fun item member => ?_
        rw [same item (by simp [member]) first (by simp)]
      rw [List.eraseDupsBy_cons, List.eraseDupsBy_cons, kept]
      congr 1
      refine eraseDupsBy_congr _ fun item member other otherMember => ?_
      exact same item (List.mem_cons_of_mem _ (List.mem_of_mem_filter member)) other
        (List.mem_cons_of_mem _ (List.mem_of_mem_filter otherMember))
termination_by items.length
decreasing_by
  exact Nat.lt_succ_of_le (List.length_filter_le _ rest)

/-- A place in collected lists is a place in one of them, behind those of earlier items. -/
theorem exists_split_of_flatMap
    {α β : Type}
    {collect : α → List β}
    {items : List α}
    {front rest : List β}
    {entry : β}
    (shape : items.flatMap collect = front ++ entry :: rest) :
    ∃ earlier item later before behind,
      items = earlier ++ item :: later ∧
        collect item = before ++ entry :: behind ∧
        front = earlier.flatMap collect ++ before := by
  induction items generalizing front with
  | nil =>
      simp at shape
  | cons first others inductionHypothesis =>
      rw [List.flatMap_cons, List.append_eq_append_iff] at shape
      rcases shape with ⟨between, rfl, othersShape⟩ | ⟨between, firstShape, restShape⟩
      · obtain ⟨earlier, item, later, before, behind, rfl, itemShape, rfl⟩ :=
          inductionHypothesis othersShape
        exact ⟨first :: earlier, item, later, before, behind, rfl, itemShape, by simp⟩
      · -- The entry stands in the first list, or in front of those of the others.
        cases between with
        | nil =>
            have othersShape : others.flatMap collect = [] ++ entry :: rest := by
              simpa using restShape.symm
            obtain ⟨earlier, item, later, before, behind, rfl, itemShape, isFront⟩ :=
              inductionHypothesis othersShape
            refine ⟨first :: earlier, item, later, before, behind, rfl, itemShape, ?_⟩
            rw [List.flatMap_cons, List.append_assoc, ← isFront, List.append_nil, firstShape,
              List.append_nil]
        | cons head behind =>
            obtain ⟨rfl, -⟩ : entry = head ∧ rest = behind ++ others.flatMap collect := by
              simpa using restShape
            exact ⟨[], first, others, front, behind, rfl, firstShape, rfl⟩

namespace NameTable

/-- A table binds a hash to a text. -/
def Binds
    (table : NameTable)
    (hash : NameHash)
    (text : String) :
    Prop :=
  table.find? hash = some ⟨hash, text⟩

/-- What a well-formed table binds is what it lists. -/
theorem WellFormed.binds_iff
    {table : NameTable}
    (wellFormed : table.WellFormed)
    {hash : NameHash}
    {text : String} :
    table.Binds hash text ↔ ⟨hash, text⟩ ∈ table.names := by
  rw [Binds, wellFormed.unitable.find?_eq_some_iff]
  exact and_iff_left rfl

end NameTable

namespace Database

/-- Two databases bind a hash to different texts. -/
def Disagrees
    (first second : Database) :
    Prop :=
  ∃ hash text other,
    first.names.Binds hash text ∧ second.names.Binds hash other ∧ text ≠ other

end Database

/-- One of some databases binds the hash of a name to another text. -/
def Name.IsContested
    (name : Name)
    (databases : List Database) :
    Prop :=
  ∃ database ∈ databases, ∃ text, database.names.Binds name.hash text ∧ text ≠ name.text

namespace Merge

/--
A name is the first, in the order of the inputs and then of their tables, that an earlier
input contests, and a text is what the earliest input binds its hash to.
-/
inductive FirstContested
    (inputs : List Database) :
    Name → String → Prop
  | intro
      {earlier later before between : List Database}
      {input holder : Database}
      {front rest : List Name}
      {name : Name}
      {existing : String}
      (inputsShape : inputs = earlier ++ input :: later)
      (namesShape : input.names.names = front ++ name :: rest)
      (earlierAccepted :
        ∀ start other behind,
          earlier = start ++ other :: behind →
            ∀ listed ∈ other.names.names, ¬ listed.IsContested start)
      (frontAccepted : ∀ listed ∈ front, ¬ listed.IsContested earlier)
      (earlierShape : earlier = before ++ holder :: between)
      (earliest : ∀ other ∈ before, other.names.contains name.hash = false)
      (bound : holder.names.Binds name.hash existing)
      (otherText : existing ≠ name.text) :
      FirstContested inputs name existing

/-- Names that can be united are not contested among themselves. -/
theorem not_isContested_of_unitable
    {names : List Name}
    (unitable : NameTable.Unitable names)
    {databases : List Database}
    (included : ∀ database ∈ databases, database.names.names ⊆ names)
    {name : Name}
    (listed : name ∈ names) :
    ¬ name.IsContested databases := by
  rintro ⟨database, member, text, bound, otherText⟩
  have boundListed := included database member (NameTable.mem_of_find? bound)
  have same := unitable.consistent ⟨name.hash, text⟩ boundListed name listed rfl
  exact otherText (congrArg Name.text same)

variable {inputs : List Database}

/-- The names of inputs that bind no hash to different texts can be united. -/
theorem unitable_of_not_disagrees
    (wellFormed : ∀ input ∈ inputs, input.WellFormed)
    (agree : ∀ first ∈ inputs, ∀ second ∈ inputs, ¬ first.Disagrees second) :
    NameTable.Unitable (inputs.flatMap fun input => input.names.names) where
  present name member := by
    obtain ⟨input, inputMember, listed⟩ := List.mem_flatMap.mp member
    exact (wellFormed input inputMember).names.hashPresent name listed
  consistent := by
    rintro ⟨hash, text⟩ member ⟨other, otherText⟩ otherMember sameHash
    obtain rfl : hash = other := sameHash
    obtain ⟨first, firstMember, listed⟩ := List.mem_flatMap.mp member
    obtain ⟨second, secondMember, otherListed⟩ := List.mem_flatMap.mp otherMember
    by_contra different
    refine agree first firstMember second secondMember ⟨hash, text, otherText, ?_, ?_, ?_⟩
    · exact (wellFormed first firstMember).names.binds_iff.mpr listed
    · exact (wellFormed second secondMember).names.binds_iff.mpr otherListed
    · exact fun sameText => different (congrArg (Name.mk hash) sameText)

/-- A merge fails exactly if two inputs bind a hash to different texts. -/
theorem exists_error_iff_disagrees
    (wellFormed : ∀ input ∈ inputs, input.WellFormed) :
    (∃ error, Database.merge inputs = .error error) ↔
      ∃ first ∈ inputs, ∃ second ∈ inputs, first.Disagrees second := by
  constructor
  · rintro ⟨error, refused⟩
    by_contra agree
    push Not at agree
    have unitable := unitable_of_not_disagrees wellFormed agree
    obtain ⟨outcome, merged⟩ :=
      Database.exists_merge_iff.mpr ⟨_, NameTable.absorb_eraseDups [] unitable⟩
    rw [merged] at refused
    cases refused
  · rintro ⟨first, firstMember, second, secondMember, hash, text, other, bound, otherBound,
      different⟩
    cases merged : Database.merge inputs with
    | error error =>
        exact ⟨error, rfl⟩
    | ok outcome =>
        have unitable := NameTable.unitable_of_absorb (Database.absorb_of_merge_ok merged)
        have listed : ⟨hash, text⟩ ∈ inputs.flatMap fun input => input.names.names :=
          List.mem_flatMap.mpr ⟨first, firstMember, NameTable.mem_of_find? bound⟩
        have otherListed : ⟨hash, other⟩ ∈ inputs.flatMap fun input => input.names.names :=
          List.mem_flatMap.mpr ⟨second, secondMember, NameTable.mem_of_find? otherBound⟩
        have same := unitable.consistent _ listed _ otherListed rfl
        exact (different (congrArg Name.text same)).elim

/-- A merge that fails reports the first contested name, with the text bound earliest. -/
theorem exists_firstContested_of_error
    (wellFormed : ∀ input ∈ inputs, input.WellFormed)
    {error : Error}
    (refused : Database.merge inputs = .error error) :
    ∃ name existing,
      FirstContested inputs name existing ∧
        error = .nameCollision name.hash existing name.text := by
  obtain ⟨names, notUnited⟩ := Database.absorb_of_merge_error refused
  obtain ⟨united, name, behind, shape, unitedAbsorbed, nameRefused⟩ :=
    NameTable.absorb_eq_error notUnited
  obtain ⟨earlier, input, later, front, rest, inputsShape, namesShape, rfl⟩ :=
    exists_split_of_flatMap shape
  have inputWellFormed := (wellFormed input (by simp [inputsShape])).names
  have listed : name ∈ input.names.names := by
    simp [namesShape]
  obtain ⟨⟨hash, existing⟩, found, otherText, reported⟩ :=
    NameTable.exists_of_bind_error (inputWellFormed.hashPresent name listed) nameRefused
  obtain rfl : hash = name.hash := NameTable.hash_of_find? found
  -- What was united so far is consistent, so none of it is contested by what came earlier.
  have unitable := NameTable.unitable_of_absorb unitedAbsorbed
  have included :
      ∀ database ∈ earlier,
        database.names.names ⊆ (earlier.flatMap fun input => input.names.names) ++ front :=
    fun database member _ named =>
      List.mem_append_left _ (List.mem_flatMap.mpr ⟨database, member, named⟩)
  have inEarlier :
      (⟨name.hash, existing⟩ : Name) ∈ earlier.flatMap fun input => input.names.names := by
    have isUnited :=
      (NameTable.mem_of_absorb unitedAbsorbed _).mp (NameTable.mem_of_find? found)
    rcases List.mem_append.mp (isUnited.resolve_right (by simp [NameTable.empty])) with
      before | inFront
    · exact before
    · have existingListed : ⟨name.hash, existing⟩ ∈ input.names.names := by
        rw [namesShape]
        exact List.mem_append_left _ inFront
      have same := inputWellFormed.unitable.consistent _ existingListed name listed rfl
      exact (otherText (congrArg Name.text same)).elim
  obtain ⟨first, firstMember, firstListed⟩ := List.mem_flatMap.mp inEarlier
  have firstContains : first.names.contains name.hash = true := by
    have firstWellFormed := (wellFormed first (by simp [inputsShape, firstMember])).names
    rw [NameTable.contains, firstWellFormed.binds_iff.mpr firstListed]
    rfl
  obtain ⟨holder, holderFound⟩ :
      ∃ holder, earlier.find? (fun input => input.names.contains name.hash) = some holder :=
    Option.isSome_iff_exists.mp (List.find?_isSome.mpr ⟨first, firstMember, firstContains⟩)
  obtain ⟨holderContains, before, between, earlierShape, earliest⟩ :=
    List.find?_eq_some_iff_append.mp holderFound
  obtain ⟨⟨hash, text⟩, bound⟩ := Option.isSome_iff_exists.mp holderContains
  obtain rfl : hash = name.hash := NameTable.hash_of_find? bound
  have sameText : text = existing := by
    have holderListed :=
      included holder (by simp [earlierShape]) (NameTable.mem_of_find? bound)
    exact congrArg Name.text
      (unitable.consistent _ holderListed _ (List.mem_append_left _ inEarlier) rfl)
  refine ⟨name, existing, ?_, reported⟩
  refine .intro inputsShape namesShape ?earlierAccepted ?frontAccepted earlierShape ?earliest
    (sameText ▸ bound) otherText
  case earlierAccepted =>
    rintro start other behind rfl listed otherListed
    refine not_isContested_of_unitable unitable (fun database member => ?_)
      (included other (by simp) otherListed)
    exact included database (by simp [member])
  case frontAccepted =>
    intro listed inFront
    exact not_isContested_of_unitable unitable included (List.mem_append_right _ inFront)
  case earliest =>
    intro other member
    simpa using earliest other member

variable {outcome : MergeOutcome}

/-- The names of a merge are those of the inputs, in order, each hash at its first place. -/
theorem names_of_merge
    (merged : Database.merge inputs = .ok outcome) :
    outcome.database.names.names =
      (inputs.flatMap fun input => input.names.names).eraseDupsBy
        fun first second => first.hash == second.hash := by
  have absorbed := Database.absorb_of_merge_ok merged
  have unitable := NameTable.unitable_of_absorb absorbed
  have listed := NameTable.absorb_eraseDups [] unitable
  have sameRepeats :
      ∀ first ∈ inputs.flatMap fun input => input.names.names,
        ∀ second ∈ inputs.flatMap fun input => input.names.names,
          (first == second) = (first.hash == second.hash) := by
    intro first firstMember second secondMember
    rw [Bool.eq_iff_iff, beq_iff_eq, beq_iff_eq]
    exact ⟨congrArg Name.hash, unitable.consistent first firstMember second secondMember⟩
  have isUnion := (Prod.mk.inj (absorbed.symm.trans listed)).2
  rw [← eraseDupsBy_congr _ sameRepeats, isUnion]
  rfl

end Merge

open Merge

/--
Uniting the names of databases that a client can hold is exact.  A merge fails exactly if
two of its inputs bind a hash to different texts, and so it does in every order of the
inputs.  It then reports the first name, in the order of the inputs and of their tables,
whose hash an earlier input binds to another text, and the text that the earliest of them
binds.  Otherwise it lists the names of all inputs without later repetitions of a hash, so
every name of an input is what its hash resolves to.
-/
theorem merge_names_exact
    {inputs : List Database}
    (reachable : ∀ input ∈ inputs, input.Reachable) :
    ((∃ error, Database.merge inputs = .error error) ↔
        ∃ first ∈ inputs, ∃ second ∈ inputs, first.Disagrees second) ∧
      (∀ error,
        Database.merge inputs = .error error →
          ∃ name existing,
            FirstContested inputs name existing ∧
              error = .nameCollision name.hash existing name.text) ∧
      (∀ outcome,
        Database.merge inputs = .ok outcome →
          outcome.database.names.names =
              ((inputs.flatMap fun input => input.names.names).eraseDupsBy
                fun first second => first.hash == second.hash) ∧
            ∀ input ∈ inputs, ∀ name ∈ input.names.names,
              outcome.database.names.resolve name.hash = name) ∧
      ∀ permuted,
        inputs.Perm permuted →
          ((∃ error, Database.merge inputs = .error error) ↔
            ∃ error, Database.merge permuted = .error error) := by
  have wellFormed : ∀ input ∈ inputs, input.WellFormed :=
    fun input member => (reachable input member).wellFormed
  refine ⟨exists_error_iff_disagrees wellFormed, ?reported, ?united, ?permuted⟩
  case reported =>
    exact fun error refused => exists_firstContested_of_error wellFormed refused
  case united =>
    intro outcome merged
    refine ⟨names_of_merge merged, fun input member name listed => ?_⟩
    have united := Database.absorb_of_merge_ok merged
    have found :=
      NameTable.find?_of_mem_absorb united (List.mem_flatMap.mpr ⟨input, member, listed⟩)
    rw [NameTable.resolve, found]
    rfl
  case permuted =>
    intro permuted reordered
    have permutedWellFormed : ∀ input ∈ permuted, input.WellFormed :=
      fun input member => wellFormed input (reordered.mem_iff.mpr member)
    rw [exists_error_iff_disagrees wellFormed, exists_error_iff_disagrees permutedWellFormed]
    simp only [reordered.mem_iff]

/-- A unit with a type, and the two units with types of one hash behind it. -/
def collidingUnits : List Database :=
  [(Change.addType "int" 0 4).apply Database.empty, firstTextUnit, secondTextUnit]

/--
The units cannot be merged, nor in the reverse order, because of the second type of the
last one.  Without the unit in the middle they can be.
-/
theorem merge_names_exact_collidingUnits :
    ∃ name,
      FirstContested collidingUnits name collidingTexts.1 ∧
        name.text = collidingTexts.2 ∧
        (∃ error, Database.merge collidingUnits.reverse = .error error) ∧
        ∃ outcome,
          Database.merge (collidingUnits.eraseIdx 1) = .ok outcome ∧
            outcome.database.names.names.map Name.text = ["int", collidingTexts.2] := by
  have reachable : ∀ input ∈ collidingUnits, input.Reachable := by
    intro input member
    simp only [collidingUnits, List.mem_cons, List.not_mem_nil, or_false] at member
    rcases member with rfl | rfl | rfl
    · exact .change _ .empty
    · exact .change _ .empty
    · exact .change _ (.change _ .empty)
  have refused :
      Database.merge collidingUnits =
        .error
          (.nameCollision (NameHash.ofText collidingTexts.2) collidingTexts.1
            collidingTexts.2) := by
    decide +kernel
  obtain ⟨-, reported, -, permuted⟩ := merge_names_exact reachable
  obtain ⟨name, existing, isFirst, sameError⟩ := reported _ refused
  obtain ⟨-, rfl, sameText⟩ := Error.nameCollision.inj sameError
  obtain ⟨outcome, merged⟩ :
      ∃ outcome, Database.merge (collidingUnits.eraseIdx 1) = .ok outcome :=
    ⟨_, rfl⟩
  obtain ⟨-, -, united, -⟩ :=
    merge_names_exact fun input member => reachable input (List.mem_of_mem_eraseIdx member)
  refine ⟨name, isFirst, sameText.symm, ?_, outcome, merged, ?_⟩
  · exact (permuted _ (List.reverse_perm _).symm).mp ⟨_, refused⟩
  · rw [(united outcome merged).1]
    decide +kernel

end SymbolDatabase
