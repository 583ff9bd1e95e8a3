import SymbolDatabase.Proofs.Declaration

namespace SymbolDatabase

/-!
# Redeclared functions and methods

An identifier is spelled out under the names of the unit that declares, and units bind
different names.  Where both units bind the types that they declare with, the names of
their merge spell the types in the same way as the names of either unit, so a function that
is declared in both has one identifier, and the merge holds it once.  Where a type is not
bound at the time of a declaration, the identifier comes from an empty text instead, and
the merge can hold the function twice.
-/

namespace Signature

variable {names : NameTable} {result otherResult : Option Slot}
  {parameters otherParameters : List Slot}

/-- An identifier depends on the hashes of the spelled slots only. -/
theorem identify_eq_foldl
    (names : NameTable)
    (result : Option Slot)
    (parameters : List Slot) :
    identify names result parameters =
      (parameters.map fun slot => slot.spellingHash names).foldl NameHash.mix
        ((result.map fun slot => slot.spellingHash names).getD 0) := by
  cases result <;> simp only [identify, List.foldl_map] <;> rfl

/-- Signatures of the same types have the same identifier under the same names. -/
theorem identify_congr_projections
    (sameResult : result.map Slot.projection = otherResult.map Slot.projection)
    (sameParameters :
      parameters.map Slot.projection = otherParameters.map Slot.projection) :
    identify names result parameters = identify names otherResult otherParameters := by
  have spelled :
      (fun slot : Slot => slot.spellingHash names) =
        (fun projection => (Slot.ofProjection projection).spellingHash names) ∘
          Slot.projection :=
    rfl
  rw [identify_eq_foldl, identify_eq_foldl, spelled, ← Option.map_map, ← Option.map_map,
    ← List.map_map, ← List.map_map, sameResult, sameParameters]

end Signature

namespace Declaration

variable {declaration redeclaration : Declaration} {names : NameTable}

/-- Two declarations agree in everything that they describe a symbol by. -/
structure Redeclares
    (redeclaration declaration : Declaration) :
    Prop where
  isMethod :
    redeclaration.isMethod = declaration.isMethod
  text :
    redeclaration.text = declaration.text
  parent :
    redeclaration.parent = declaration.parent
  projections :
    redeclaration.projections = declaration.projections

/-- Closed symbols that one declaration describes have the same identifier. -/
theorem identifier?_eq
    {first second : Symbol}
    (firstDescribed : declaration.describes first = true)
    (secondDescribed : declaration.describes second = true)
    (firstClosed : first.IsClosed names)
    (secondClosed : second.IsClosed names) :
    first.identifier? = second.identifier? := by
  obtain ⟨firstSignature, rfl, firstTypes⟩ := describes_iff.mp firstDescribed
  obtain ⟨secondSignature, rfl, secondTypes⟩ := describes_iff.mp secondDescribed
  have sameTypes := firstTypes.trans secondTypes.symm
  have firstGenuine := (firstClosed firstSignature (signature?_body _)).1
  have secondGenuine := (secondClosed secondSignature (signature?_body _)).1
  have same : firstSignature.identifier = secondSignature.identifier := by
    rw [firstGenuine, secondGenuine]
    exact Signature.identify_congr_projections (congrArg Prod.fst sameTypes)
      (congrArg Prod.snd sameTypes)
  simp [Symbol.identifier?, Symbol.signature?, signature?_body, same]

/-- A redeclaration describes what the declaration describes. -/
theorem Redeclares.describes_eq
    (redeclares : redeclaration.Redeclares declaration) :
    redeclaration.describes = declaration.describes := by
  obtain ⟨isMethod, text, parent, result, parameters⟩ := redeclaration
  obtain ⟨rfl, rfl, rfl, sameTypes⟩ := redeclares
  funext symbol
  rw [describes, describes, sameTypes]
  rfl

/-- A described symbol behind a handle stands among the symbols of the declared kind. -/
theorem mem_symbols_of_holds
    {database : Database}
    {handle : Handle}
    {symbol : Symbol}
    (described : declaration.describes symbol = true)
    (held : database.store.Holds handle symbol) :
    symbol ∈ database.symbols declaration.kind := by
  obtain ⟨signature, rfl, -⟩ := describes_iff.mp described
  rw [← kind_body signature]
  exact held.mem_symbols

end Declaration

namespace Database

variable {database : Database} {declaration : Declaration} {symbol : Symbol}

/-- A closed database without repetitions has one symbol for what is declared. -/
theorem Closed.filter_describes
    (closed : database.Closed)
    (distinct : database.Distinct)
    (member : symbol ∈ database.symbols declaration.kind)
    (described : declaration.describes symbol = true) :
    (database.symbols declaration.kind).filter declaration.describes = [symbol] := by
  have isListed : symbol ∈ (database.symbols declaration.kind).filter declaration.describes :=
    List.mem_filter.mpr ⟨member, described⟩
  have apart := (distinct declaration.kind).filter declaration.describes
  have together :
      ∀ first ∈ (database.symbols declaration.kind).filter declaration.describes,
        ∀ second ∈ (database.symbols declaration.kind).filter declaration.describes,
          first.sameDefinition second = true := by
    intro first firstListed second secondListed
    obtain ⟨firstMember, firstDescribed⟩ := List.mem_filter.mp firstListed
    obtain ⟨secondMember, secondDescribed⟩ := List.mem_filter.mp secondListed
    exact Declaration.sameDefinition_of_describes firstDescribed secondDescribed
      (Declaration.identifier?_eq firstDescribed secondDescribed
        (closed.symbols _ first firstMember) (closed.symbols _ second secondMember))
  generalize (database.symbols declaration.kind).filter declaration.describes = listed at *
  match listed with
  | [] =>
      cases isListed
  | [only] =>
      rw [List.mem_singleton.mp isListed]
  | first :: second :: rest =>
      have different := (List.pairwise_cons.mp apart).1 second (by simp)
      rw [together first (by simp) second (by simp)] at different
      cases different

end Database

/-- Where everything of a sort is held already, an input adds nothing of the sort. -/
theorem Merge.filter_settle
    {held incoming : List Symbol}
    {sort : Symbol → Bool}
    (isHeldAlready :
      ∀ symbol ∈ incoming, sort symbol = true → isHeld held symbol = true) :
    (settle held incoming).filter sort = held.filter sort := by
  rw [settle, List.filter_append, List.append_right_eq_self, List.filter_filter,
    List.filter_eq_nil_iff]
  intro symbol member admitted
  rw [Bool.and_eq_true, decide_eq_true_eq] at admitted
  rw [verdict_eq_collapsed_iff.mpr (isHeldAlready symbol member admitted.1)] at admitted
  cases admitted.2

/--
Two units are built from nothing, with functions and methods declared with absent or bound
types only, and the names of the units can be united.  Where both declare a function, or a
method, of one name, scope and types, the symbols behind the two answered handles have one
identifier, and the merge holds a single symbol for both, which is that of the first unit.
Parameter names, offsets, array lengths and everything else may differ.
-/
theorem redeclarations_merge
    {changes others : List Change}
    (closed : Change.ClosedRun changes Database.empty)
    (othersClosed : Change.ClosedRun others Database.empty)
    {declaration redeclaration : Declaration}
    (redeclares : redeclaration.Redeclares declaration)
    {handle otherHandle : Handle}
    (declared : Change.Answers changes declaration.change handle)
    (redeclared : Change.Answers others redeclaration.change otherHandle)
    {outcome : MergeOutcome}
    (merged :
      Database.merge
          [Change.run changes Database.empty, Change.run others Database.empty] =
        .ok outcome) :
    ∃ symbol other,
      (Change.run changes Database.empty).store.Holds handle symbol ∧
        (Change.run others Database.empty).store.Holds otherHandle other ∧
        declaration.describes symbol = true ∧
        redeclaration.describes other = true ∧
        symbol.identifier? = other.identifier? ∧
        (outcome.database.symbols declaration.kind).filter declaration.describes =
          [symbol] := by
  obtain ⟨symbol, held, described⟩ := Declaration.exists_described_of_answers declared
  obtain ⟨other, otherHeld, otherDescribed⟩ :=
    Declaration.exists_described_of_answers redeclared
  have unitClosed := Change.closed_run .empty closed
  have otherUnitClosed := Change.closed_run .empty othersClosed
  have unitsClosed :
      ∀ unit ∈ [Change.run changes Database.empty, Change.run others Database.empty],
        unit.Closed := by
    simp [unitClosed, otherUnitClosed]
  have isDescribed : declaration.describes other = true :=
    redeclares.describes_eq ▸ otherDescribed
  have member := Declaration.mem_symbols_of_holds described held
  have isIdentified :
      ∀ incoming ∈ (Change.run others Database.empty).symbols declaration.kind,
        declaration.describes incoming = true →
          symbol.identifier? = incoming.identifier? := by
    intro incoming incomingMember incomingDescribed
    exact Declaration.identifier?_eq described incomingDescribed
      (Database.Closed.isClosed_merged unitsClosed merged (by simp) member)
      (Database.Closed.isClosed_merged unitsClosed merged (by simp) incomingMember)
  have otherMember := Declaration.mem_symbols_of_holds isDescribed otherHeld
  refine
    ⟨symbol, other, held, otherHeld, described, otherDescribed,
      isIdentified other otherMember isDescribed, ?_⟩
  have settles :=
    Database.settles_of_merge_ok (fun unit member => (unitsClosed unit member).wellFormed)
      merged
  rw [settles.symbols, Merge.sequences_cons, Merge.sequences_cons, List.foldl_cons,
    List.foldl_cons, Merge.settle_nil]
  -- What the second unit has of this function is held already, as the first unit has it.
  have collapses :
      ∀ incoming ∈ (Change.run others Database.empty).symbols declaration.kind,
        declaration.describes incoming = true →
          Merge.isHeld ((Change.run changes Database.empty).symbols declaration.kind)
            incoming = true := by
    intro incoming incomingMember incomingDescribed
    refine List.any_eq_true.mpr ⟨symbol, member, ?_⟩
    exact Declaration.sameDefinition_of_describes described incomingDescribed
      (isIdentified incoming incomingMember incomingDescribed)
  show (Merge.settle _ _).filter declaration.describes = [symbol]
  rw [Merge.filter_settle collapses]
  exact unitClosed.filter_describes Change.distinct_run member described

/-- A function `find` with a result and a parameter of type `int`, the latter named. -/
def declaredFind
    (parameter : String) :
    Declaration :=
  let result : Slot :=
    { name := 0
      type := NameHash.ofText "int"
      passing := .pointer
      isConst := false
      offset := 0
      arrayLength := 0 }
  { isMethod := false
    text := "find"
    parent := 0
    result := some result
    parameters :=
      [{ result with name := NameHash.ofText parameter, passing := .value }] }

/-- How two units come to declare the function with a type that both bind. -/
def boundUnits : List Change × List Change :=
  ( [.intern "int", (declaredFind "x").change],
    [.addScope "gfx" 0, .addType "int" 0 4, (declaredFind "y").change] )

/-- How two units come to declare it, the first one with a type that it does not bind. -/
def halfBoundUnits : List Change × List Change :=
  ( [(declaredFind "x").change],
    [.intern "int", (declaredFind "y").change] )

theorem declaredFind_redeclares
    (parameter other : String) :
    (declaredFind other).Redeclares (declaredFind parameter) :=
  ⟨rfl, rfl, rfl, by simp [declaredFind, Declaration.projections, Slot.projection]⟩

/-- A function that two units declare with other parameter names is merged into one. -/
theorem redeclarations_merge_boundUnits :
    ∃ outcome symbol,
      Database.merge
            [Change.run boundUnits.1 Database.empty,
              Change.run boundUnits.2 Database.empty] =
          .ok outcome ∧
        (outcome.database.symbols .function).filter (declaredFind "x").describes =
          [symbol] := by
  obtain ⟨outcome, merged⟩ :
      ∃ outcome,
        Database.merge
            [Change.run boundUnits.1 Database.empty,
              Change.run boundUnits.2 Database.empty] =
          .ok outcome :=
    ⟨_, rfl⟩
  have declared :
      Change.Answers boundUnits.1 (declaredFind "x").change
        ⟨.function, NameHash.ofText "find", 0⟩ :=
    ⟨[.intern "int"], [], rfl, by decide +kernel⟩
  have redeclared :
      Change.Answers boundUnits.2 (declaredFind "y").change
        ⟨.function, NameHash.ofText "find", 0⟩ :=
    ⟨[.addScope "gfx" 0, .addType "int" 0 4], [], rfl, by decide +kernel⟩
  obtain ⟨symbol, other, -, -, -, -, -, single⟩ :=
    redeclarations_merge (by decide +kernel) (by decide +kernel)
      (declaredFind_redeclares "x" "y") declared redeclared merged
  exact ⟨outcome, symbol, merged, single⟩

/-- Where one unit does not bind the type, the merge holds the function twice. -/
theorem not_redeclarations_merge_halfBoundUnits :
    (declaredFind "y").Redeclares (declaredFind "x") ∧
      Change.Answers halfBoundUnits.1 (declaredFind "x").change
        ⟨.function, NameHash.ofText "find", 0⟩ ∧
      Change.Answers halfBoundUnits.2 (declaredFind "y").change
        ⟨.function, NameHash.ofText "find", 0⟩ ∧
      ∃ outcome first second,
        Database.merge
              [Change.run halfBoundUnits.1 Database.empty,
                Change.run halfBoundUnits.2 Database.empty] =
            .ok outcome ∧
          outcome.isClean = true ∧
          (outcome.database.symbols .function).filter (declaredFind "x").describes =
            [first, second] ∧
          first.identifier? ≠ second.identifier? := by
  have twice :
      ∃ outcome first second,
        Database.merge
              [Change.run halfBoundUnits.1 Database.empty,
                Change.run halfBoundUnits.2 Database.empty] =
            .ok outcome ∧
          outcome.isClean = true ∧
          (outcome.database.symbols .function).filter (declaredFind "x").describes =
            [first, second] ∧
          first.identifier? ≠ second.identifier? :=
    ⟨_, _, _, rfl, by decide +kernel, rfl, by decide +kernel⟩
  exact
    ⟨declaredFind_redeclares "x" "y", ⟨[], [], rfl, by decide +kernel⟩,
      ⟨[.intern "int"], [], rfl, by decide +kernel⟩, twice⟩

end SymbolDatabase
