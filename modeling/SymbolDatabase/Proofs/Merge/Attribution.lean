import SymbolDatabase.Proofs.Merge.Clean

namespace SymbolDatabase

/-!
# Whom a conflict report names

A conflict report shows the symbol that was kept and the input that it came from.  Inputs
that repeat a held definition are noted behind its first origin, and what is admitted is
held behind what was held before.  So the first symbol held under a key, and where it came
from, are settled by the first input that carries the key, and every later report about
the key shows just these.
-/

namespace Merge

variable
  {input start : Nat}
  {symbols : List Symbol}
  {holdings : List Holding}

/-- The input that first carried a held symbol, and the symbol. -/
def Holding.founding
    (holding : Holding) :
    Nat × Symbol :=
  (holding.origins.headD 0, holding.symbol)

/-- Where held symbols came from first. -/
def foundings
    (holdings : List Holding) :
    List (Nat × Symbol) :=
  holdings.map Holding.founding

/-- The first of several symbols that has a key, with the input that it came from. -/
def founder?
    (key : Kind × NameHash × Option UInt64)
    (entries : List (Nat × Symbol)) :
    Option (Nat × Symbol) :=
  entries.find? fun entry => entry.2.key = key

/-- Every held symbol has an origin. -/
def AllFounded
    (holdings : List Holding) :
    Prop :=
  ∀ holding ∈ holdings, holding.origins ≠ []

/-- An input that repeats a symbol is noted behind its first origin. -/
theorem Holding.founding_credit
    {holding : Holding}
    (founded : holding.origins ≠ [])
    (input : Nat) :
    (holding.credit input).founding = holding.founding := by
  unfold Holding.credit
  split
  · rfl
  · cases noted : holding.origins with
    | nil =>
        exact absurd noted founded
    | cons first later =>
        simp [Holding.founding, noted]

theorem Holding.origins_credit_ne_nil
    {holding : Holding}
    (founded : holding.origins ≠ [])
    (input : Nat) :
    (holding.credit input).origins ≠ [] := by
  unfold Holding.credit
  split
  · exact founded
  · simp

/-- Crediting keeps where all held symbols came from first. -/
theorem foundings_creditFirst?
    {symbol : Symbol}
    {credited : List Holding}
    (found : creditFirst? input symbol holdings = some credited)
    (founded : AllFounded holdings) :
    foundings credited = foundings holdings ∧ AllFounded credited := by
  obtain ⟨front, holding, behind, rfl, -, rfl⟩ := creditFirst?_eq_some found
  have hereFounded : holding.origins ≠ [] :=
    founded holding (by simp)
  constructor
  · simp [foundings, Holding.founding_credit hereFounded]
  · intro listed member
    rcases List.mem_append.mp member with before | later
    · exact founded listed (List.mem_append_left _ before)
    · rcases List.mem_cons.mp later with rfl | last
      · exact Holding.origins_credit_ne_nil hereFounded input
      · exact founded listed (by simp [last])

/-- Collapsing keeps where all held symbols came from first. -/
theorem foundings_collapse
    (input : Nat)
    (symbols : List Symbol)
    (founded : AllFounded holdings) :
    foundings (collapse input symbols holdings).1 = foundings holdings ∧
      AllFounded (collapse input symbols holdings).1 := by
  induction symbols generalizing holdings with
  | nil =>
      exact ⟨rfl, founded⟩
  | cons symbol rest inductionHypothesis =>
      simp only [collapse]
      cases found : creditFirst? input symbol holdings with
      | none =>
          exact inductionHypothesis founded
      | some credited =>
          obtain ⟨sameFoundings, creditedFounded⟩ :=
            foundings_creditFirst? found founded
          obtain ⟨laterSame, laterFounded⟩ := inductionHypothesis creditedFounded
          exact ⟨laterSame.trans sameFoundings, laterFounded⟩

/-- The rival of a symbol is the first holding of its key. -/
theorem find?_of_rival?
    {symbol : Symbol}
    {kept : Holding}
    (rival : rival? input holdings symbol = some kept) :
    (holdings.find? fun holding => holding.symbol.key = symbol.key) = some kept := by
  have sameTest :
      (fun holding : Holding => holding.symbol.sameKey symbol) =
        fun holding : Holding => decide (holding.symbol.key = symbol.key) := by
    funext holding
    rw [Bool.eq_iff_iff, Symbol.sameKey_iff, decide_eq_true_eq]
  unfold rival? at rival
  dsimp only at rival
  split at rival
  · cases rival
  · rwa [List.head?_filter, sameTest] at rival

/-- A symbol whose key nothing is held under has no rival. -/
theorem rival?_eq_none_of_key
    {symbol : Symbol}
    (vacant : ∀ other ∈ heldSymbols holdings, other.key ≠ symbol.key) :
    rival? input holdings symbol = none := by
  cases rival : rival? input holdings symbol with
  | none =>
      rfl
  | some kept =>
      have found := find?_of_rival? rival
      have sameKey : kept.symbol.key = symbol.key := by
        simpa using List.find?_some found
      have held : kept.symbol ∈ heldSymbols holdings :=
        List.mem_map_of_mem (List.mem_of_find?_eq_some found)
      exact absurd sameKey (vacant kept.symbol held)

/-- Nothing is founded under a key exactly if nothing is held under it. -/
theorem founder?_foundings_eq_none_iff
    {key : Kind × NameHash × Option UInt64} :
    founder? key (foundings holdings) = none ↔
      ∀ other ∈ heldSymbols holdings, other.key ≠ key := by
  simp [founder?, foundings, heldSymbols, Holding.founding]

/-- What is found under a key comes from the first holding of the key. -/
theorem founder?_foundings
    (key : Kind × NameHash × Option UInt64)
    (holdings : List Holding) :
    founder? key (foundings holdings) =
      (holdings.find? fun holding => holding.symbol.key = key).map
        Holding.founding := by
  unfold founder? foundings
  rw [List.find?_map]
  rfl

/--
After an input, the first symbol under a key is the one that was held before, or else the
first one that the input has.
-/
theorem founder?_takeIn
    (founded : AllFounded holdings)
    (symbols : List Symbol)
    (key : Kind × NameHash × Option UInt64) :
    founder? key (foundings (takeIn input symbols holdings).1) =
      (founder? key (foundings holdings)).or
        ((symbols.find? fun symbol => symbol.key = key).map (Prod.mk input)) := by
  obtain ⟨sameFoundings, -⟩ := foundings_collapse input symbols founded
  unfold foundings at sameFoundings
  unfold takeIn founder? foundings
  simp only [List.map_append, sameFoundings, List.find?_append]
  cases before : founder? key (foundings holdings) with
  | some founding =>
      unfold founder? foundings at before
      rw [before, Option.some_or, Option.some_or]
  | none =>
      -- Under a vacant key nothing of the input collapses and nothing is rejected.
      have vacant := founder?_foundings_eq_none_iff.mp before
      have admitted :
          (((collapse input symbols holdings).2.filter fun symbol =>
              (rival? input (collapse input symbols holdings).1 symbol).isNone).find?
              fun symbol => symbol.key = key) =
            symbols.find? fun symbol => symbol.key = key := by
        rw [pending_collapse, List.find?_filter, List.find?_filter]
        congr 1
        funext symbol
        by_cases atKey : symbol.key = key
        · have notHeld : isHeld (heldSymbols holdings) symbol = false := by
            rw [isHeld, List.any_eq_false]
            intro other held same
            exact vacant other held
              ((Symbol.key_eq_of_sameDefinition same).trans atKey)
          have noRival :
              rival? input (collapse input symbols holdings).1 symbol = none := by
            apply rival?_eq_none_of_key
            rw [heldSymbols_collapse, atKey]
            exact vacant
          simp [atKey, notHeld, noRival]
        · simp [atKey]
      unfold founder? foundings at before
      rw [before, Option.none_or, Option.none_or, List.map_map, List.find?_map,
        ← admitted]
      rfl

theorem allFounded_takeIn
    (founded : AllFounded holdings)
    (input : Nat)
    (symbols : List Symbol) :
    AllFounded (takeIn input symbols holdings).1 := by
  unfold takeIn
  intro holding member
  rcases List.mem_append.mp member with old | new
  · exact (foundings_collapse input symbols founded).2 holding old
  · obtain ⟨symbol, -, rfl⟩ := List.mem_map.mp new
    simp

/--
A clash is between a symbol of the input and what was held first under its key, and the
two have different definitions.
-/
theorem founder?_of_mem_takeIn
    (founded : AllFounded holdings)
    {clash : Clash}
    (member : clash ∈ (takeIn input symbols holdings).2) :
    clash.rejected.symbol ∈ symbols ∧
      clash.rejected.origins = [input] ∧
      founder? clash.rejected.symbol.key (foundings holdings) =
        some clash.kept.founding ∧
      clash.kept.symbol.sameDefinition clash.rejected.symbol = false := by
  obtain ⟨symbol, pending, clashes⟩ := List.mem_filterMap.mp member
  obtain ⟨kept, rival, rfl⟩ := Option.map_eq_some_iff.mp clashes
  have found := find?_of_rival? rival
  rw [pending_collapse] at pending
  obtain ⟨inInput, notHeld⟩ := List.mem_filter.mp pending
  refine ⟨inInput, rfl, ?_, ?_⟩
  · rw [← (foundings_collapse input symbols founded).1,
      founder?_foundings, found]
    rfl
  · have held : kept.symbol ∈ heldSymbols holdings := by
      rw [← heldSymbols_collapse input symbols holdings]
      exact List.mem_map_of_mem (List.mem_of_find?_eq_some found)
    have noneSame : isHeld (heldSymbols holdings) symbol = false := by
      simpa using notHeld
    rw [isHeld, List.any_eq_false] at noneSame
    simpa using noneSame kept.symbol held

/-- The first symbol with a key in several inputs, numbered from a start. -/
def firstCarried?
    (key : Kind × NameHash × Option UInt64) :
    Nat → List (List Symbol) → Option (Nat × Symbol)
  | _, [] =>
      none
  | start, symbols :: rest =>
      ((symbols.find? fun symbol => symbol.key = key).map (Prod.mk start)).or
        (firstCarried? key (start + 1) rest)

/-- What is carried first is the first of its key in an input, and none before has one. -/
theorem firstCarried?_eq_some
    {key : Kind × NameHash × Option UInt64}
    {inputs : List (List Symbol)}
    {symbol : Symbol}
    (carried : firstCarried? key start inputs = some (input, symbol)) :
    ∃ front symbols rest,
      inputs = front ++ symbols :: rest ∧
        input = start + front.length ∧
        (symbols.find? fun symbol => symbol.key = key) = some symbol ∧
        ∀ other ∈ front, ∀ earlier ∈ other, earlier.key ≠ key := by
  induction inputs generalizing start with
  | nil =>
      cases carried
  | cons first rest inductionHypothesis =>
      rw [firstCarried?] at carried
      cases here : first.find? fun symbol => symbol.key = key with
      | some found =>
          rw [here] at carried
          obtain ⟨rfl, rfl⟩ := Prod.mk.inj (Option.some.inj carried)
          exact ⟨[], first, rest, rfl, rfl, here, by simp⟩
      | none =>
          rw [here] at carried
          obtain ⟨front, symbols, behind, rfl, rfl, found, missing⟩ :=
            inductionHypothesis carried
          refine ⟨first :: front, symbols, behind, rfl, ?_, found, ?_⟩
          · rw [List.length_cons]
            omega
          · intro other member
            rcases List.mem_cons.mp member with rfl | inFront
            · simpa using here
            · exact missing other inFront

/-- Carrying something first is not changed by inputs behind. -/
theorem firstCarried?_append
    (key : Kind × NameHash × Option UInt64)
    (start : Nat)
    (front rest : List (List Symbol)) :
    firstCarried? key start (front ++ rest) =
      (firstCarried? key start front).or
        (firstCarried? key (start + front.length) rest) := by
  induction front generalizing start with
  | nil =>
      rfl
  | cons first front inductionHypothesis =>
      rw [List.cons_append, firstCarried?, firstCarried?, inductionHypothesis,
        Option.or_assoc, List.length_cons, Nat.add_assoc, Nat.add_comm 1]

/-- After several inputs, the first symbol under a key is the first one ever carried. -/
theorem founder?_takeInAll
    (founded : AllFounded holdings)
    (start : Nat)
    (inputs : List (List Symbol))
    (key : Kind × NameHash × Option UInt64) :
    founder? key (foundings (takeInAll start inputs holdings).1) =
      (founder? key (foundings holdings)).or (firstCarried? key start inputs) := by
  induction inputs generalizing start holdings with
  | nil =>
      simp [takeInAll, firstCarried?]
  | cons symbols rest inductionHypothesis =>
      have later :=
        inductionHypothesis (allFounded_takeIn founded start symbols) (start + 1)
      simp only [takeInAll, later, founder?_takeIn founded symbols key, firstCarried?,
        Option.or_assoc]

/-- A clash is about a symbol of some input and the first one carried before it. -/
theorem firstCarried?_of_mem_takeInAll
    (founded : AllFounded holdings)
    {inputs : List (List Symbol)}
    {clash : Clash}
    (member : clash ∈ (takeInAll start inputs holdings).2) :
    ∃ front symbols rest,
      inputs = front ++ symbols :: rest ∧
        clash.rejected.symbol ∈ symbols ∧
        clash.rejected.origins = [start + front.length] ∧
        (founder? clash.rejected.symbol.key (foundings holdings)).or
            (firstCarried? clash.rejected.symbol.key start front) =
          some clash.kept.founding ∧
        clash.kept.symbol.sameDefinition clash.rejected.symbol = false := by
  induction inputs generalizing start holdings with
  | nil =>
      cases member
  | cons symbols rest inductionHypothesis =>
      rcases List.mem_append.mp member with here | later
      · obtain ⟨inInput, origin, first, differ⟩ := founder?_of_mem_takeIn founded here
        refine ⟨[], symbols, rest, rfl, inInput, origin, ?_, differ⟩
        rw [first]
        rfl
      · obtain ⟨front, other, behind, rfl, inInput, origin, first, differ⟩ :=
          inductionHypothesis (allFounded_takeIn founded start symbols) later
        refine ⟨symbols :: front, other, behind, rfl, inInput, ?_, ?_, differ⟩
        · rw [origin, List.length_cons, Nat.add_assoc, Nat.add_comm 1]
        · rw [founder?_takeIn founded, Option.or_assoc] at first
          exact first

/-- The label of an input is looked up by its number. -/
theorem labelOf_labels
    {inputs : List Database}
    {number : Nat}
    {database : Database}
    (listed : inputs[number]? = some database) :
    labelOf (labels inputs) number = inputLabel number database := by
  simp [labelOf, labels, List.getD, listed]

/-- Where the symbols of several inputs are split, an input stands. -/
theorem exists_input_of_split
    {inputs : List Database}
    {kind : Kind}
    {front rest : List (List Symbol)}
    (split : sequences inputs kind = front ++ symbols :: rest) :
    ∃ input,
      inputs[front.length]? = some input ∧ input.symbols kind = symbols := by
  have listed : (sequences inputs kind)[front.length]? = some symbols := by
    simp [split]
  rw [sequences, List.getElem?_map] at listed
  exact Option.map_eq_some_iff.mp listed

/-- The inputs in front of a split have their symbols there. -/
theorem mem_front_of_lt
    {inputs : List Database}
    {kind : Kind}
    {front rest : List (List Symbol)}
    (split : sequences inputs kind = front ++ rest)
    {number : Nat}
    (before : number < front.length)
    {database : Database}
    (listed : inputs[number]? = some database) :
    database.symbols kind ∈ front := by
  have found : (sequences inputs kind)[number]? = some (database.symbols kind) := by
    rw [sequences, List.getElem?_map, listed]
    rfl
  rw [split, List.getElem?_append_left before] at found
  exact List.mem_of_getElem? found

/-- Every report of a merge is that of a clash among the symbols of its kind. -/
theorem exists_clash_of_mem_conflicts
    {inputs : List Database}
    {outcome : MergeOutcome}
    (merged : Database.merge inputs = .ok outcome)
    {conflict : Conflict}
    (reported : conflict ∈ outcome.conflicts) :
    ∃ clash ∈ (takeInAll 0 (sequences inputs conflict.kind) []).2,
      conflict =
        clash.report conflict.kind outcome.database.names (labels inputs) := by
  obtain ⟨-, conflicts, -, -⟩ := Database.parts_of_merge_ok merged
  rw [conflicts] at reported
  obtain ⟨kind, -, ofKind⟩ := List.mem_flatMap.mp reported
  obtain ⟨clash, member, rfl⟩ := List.mem_map.mp ofKind
  exact ⟨clash, member, rfl⟩

/-- What a merge holds first under a key is what its inputs carry first. -/
theorem find?_symbols_merged
    {inputs : List Database}
    {outcome : MergeOutcome}
    (wellFormed : ∀ input ∈ inputs, input.WellFormed)
    (merged : Database.merge inputs = .ok outcome)
    (kind : Kind)
    (key : Kind × NameHash × Option UInt64) :
    ((outcome.database.symbols kind).find? fun symbol => symbol.key = key) =
      (firstCarried? key 0 (sequences inputs kind)).map Prod.snd := by
  have settles := Database.settles_of_merge_ok wellFormed merged
  have noOrigins : OriginsBelow 0 ([] : List Holding) := by
    simp [OriginsBelow]
  have taken := (takeInAll_eq_settle noOrigins (sequences inputs kind)).1
  have founded :
      founder? key (foundings (takeInAll 0 (sequences inputs kind) []).1) =
        firstCarried? key 0 (sequences inputs kind) := by
    rw [founder?_takeInAll (by simp [AllFounded])]
    rfl
  have held :
      ∀ holdings : List Holding,
        ((heldSymbols holdings).find? fun symbol => symbol.key = key) =
          (founder? key (foundings holdings)).map Prod.snd := by
    intro holdings
    rw [founder?_foundings, heldSymbols, List.find?_map, Option.map_map]
    rfl
  rw [settles.symbols kind, ← founded, ← held, taken]
  rfl

end Merge

namespace Conflict

/-- The identity that a report is about: kind, name and identifier of an overload. -/
def identity
    (conflict : Conflict) :
    Kind × NameHash × Option UInt64 :=
  (conflict.kind, conflict.rejected.symbol.name, conflict.identifier)

/--
A report tells the truth about a merge: one input was the first to carry its identity, a
later input has another definition under it, and the report shows both with their labels.
-/
structure Truthful
    (conflict : Conflict)
    (inputs : List Database)
    (merged : Database)
    (earlier later : Nat) :
    Prop where
  order :
    earlier < later
  rejected :
    ∃ input,
      inputs[later]? = some input ∧
        conflict.rejected.symbol ∈ input.symbols conflict.kind ∧
        conflict.rejected.source =
          input.source.getD ("input #" ++ toString later)
  kept :
    ∃ input,
      inputs[earlier]? = some input ∧
        ((input.symbols conflict.kind).find? fun symbol =>
            symbol.key = conflict.identity) =
          some conflict.kept.symbol ∧
        conflict.kept.source =
          input.source.getD ("input #" ++ toString earlier)
  /-- No input before the earlier one carries the identity. -/
  earliest :
    ∀ number input,
      number < earlier →
        inputs[number]? = some input →
          ¬ input.Carries conflict.identity
  /-- The kept symbol is the first of the identity in the merged database as well. -/
  held :
    ((merged.symbols conflict.kind).find? fun symbol =>
        symbol.key = conflict.identity) =
      some conflict.kept.symbol
  keptKey :
    conflict.kept.symbol.key = conflict.identity
  rejectedKey :
    conflict.rejected.symbol.key = conflict.identity
  differ :
    conflict.kept.symbol.sameDefinition conflict.rejected.symbol = false
  name :
    conflict.name = merged.names.resolve conflict.rejected.symbol.name

end Conflict

open Merge

/--
Every conflict report is truthful.  It names the first input that carries the identity
with its first symbol of that identity, which is also the one that the merged database has
first, and a later input with a symbol of another definition.
-/
theorem conflicts_truthful
    {inputs : List Database}
    {outcome : MergeOutcome}
    (reachable : ∀ input ∈ inputs, input.Reachable)
    (merged : Database.merge inputs = .ok outcome)
    (conflict : Conflict)
    (reported : conflict ∈ outcome.conflicts) :
    ∃ earlier later,
      conflict.Truthful inputs outcome.database earlier later := by
  have wellFormed : ∀ input ∈ inputs, input.WellFormed :=
    fun input member => (reachable input member).wellFormed
  obtain ⟨clash, member, report⟩ := exists_clash_of_mem_conflicts merged reported
  obtain ⟨front, symbols, rest, split, inInput, origin, first, differ⟩ :=
    firstCarried?_of_mem_takeInAll (by simp [AllFounded]) member
  obtain ⟨later, laterListed, laterSymbols⟩ := exists_input_of_split split
  -- The kept symbol was carried first before the later input, hence also on the whole.
  have carried :
      firstCarried? clash.rejected.symbol.key 0 front = some clash.kept.founding :=
    first
  have carriedAll :
      firstCarried? clash.rejected.symbol.key 0 (sequences inputs conflict.kind) =
        some clash.kept.founding := by
    rw [split, firstCarried?_append, carried, Option.some_or]
  obtain ⟨before, keptSymbols, between, frontSplit, number, found, missing⟩ :=
    firstCarried?_eq_some carried
  rw [frontSplit, List.append_assoc] at split
  obtain ⟨earlier, earlierListed, earlierSymbols⟩ := exists_input_of_split split
  have rejectedKind : clash.rejected.symbol.kind = conflict.kind := by
    refine (wellFormed later ?_).sorted conflict.kind _ ?_
    · exact List.mem_of_getElem? laterListed
    · rw [laterSymbols]
      exact inInput
  have rejectedSide : conflict.rejected = clash.rejected.side (labels inputs) :=
    congrArg Conflict.rejected report
  have keptSide : conflict.kept = clash.kept.side (labels inputs) :=
    congrArg Conflict.kept report
  have identity : conflict.identity = clash.rejected.symbol.key := by
    rw [Conflict.identity, rejectedSide, congrArg Conflict.identifier report, Symbol.key,
      rejectedKind]
    rfl
  have keptKey : clash.kept.symbol.key = clash.rejected.symbol.key := by
    simpa using List.find?_some found
  refine ⟨before.length, front.length, ?_⟩
  constructor
  · rw [frontSplit, List.length_append, List.length_cons]
    omega
  · refine ⟨later, laterListed, ?_, ?_⟩
    · rw [laterSymbols, rejectedSide]
      exact inInput
    · rw [rejectedSide, Holding.side, origin, Nat.zero_add]
      exact labelOf_labels laterListed
  · refine ⟨earlier, earlierListed, ?_, ?_⟩
    · rw [earlierSymbols, identity, keptSide]
      exact found
    · rw [keptSide, Holding.side, number, Nat.zero_add]
      exact labelOf_labels earlierListed
  · rintro position input isBefore listed ⟨symbol, inKind, atKey⟩
    rw [identity] at inKind atKey
    have kindOfKey : clash.rejected.symbol.key.1 = conflict.kind :=
      rejectedKind
    rw [kindOfKey] at inKind
    exact missing _ (mem_front_of_lt split isBefore listed) symbol inKind atKey
  · rw [identity, find?_symbols_merged wellFormed merged, carriedAll, keptSide]
    rfl
  · rw [identity, keptSide]
    exact keptKey
  · rw [identity, rejectedSide]
    rfl
  · rw [keptSide, rejectedSide]
    exact differ
  · rw [congrArg Conflict.name report, rejectedSide]
    rfl

/--
Of three units without a source, the second repeats what the first one declares, and the
third disagrees: the report names the first and the third one.
-/
theorem conflicts_truthful_clashingUnits :
    ∃ outcome conflict,
      Database.merge clashingUnits = .ok outcome ∧
        outcome.conflicts = [conflict] ∧
        conflict.kept.source = "input #0" ∧
        conflict.rejected.source = "input #2" ∧
        ∃ earlier later,
          conflict.Truthful clashingUnits outcome.database earlier later := by
  obtain ⟨outcome, conflict, merged, only, kept, rejected⟩ :
      ∃ outcome conflict,
        Database.merge clashingUnits = .ok outcome ∧
          outcome.conflicts = [conflict] ∧
          conflict.kept.source = "input #0" ∧
          conflict.rejected.source = "input #2" :=
    ⟨_, _, rfl, rfl, rfl, rfl⟩
  have reported : conflict ∈ outcome.conflicts := by
    rw [only]
    exact List.mem_singleton_self conflict
  exact ⟨outcome, conflict, merged, only, kept, rejected,
    conflicts_truthful clashingUnits_reachable merged conflict reported⟩

end SymbolDatabase
