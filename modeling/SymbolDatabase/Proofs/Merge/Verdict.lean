import Mathlib.Data.List.Basic
import SymbolDatabase.Merge

namespace SymbolDatabase

/-!
# Verdicts without origins

Merging keeps a list of origins with every held symbol, and credits and consults it
while inputs are taken in.  None of that is needed to say what becomes of a symbol:
its fate follows from the symbols that were held when its input came up and from the
other symbols of that input.  This module states that rule and shows that taking in
inputs follows it, as long as inputs are numbered above all origins noted so far.
-/

namespace Symbol

/-- The identity of a symbol in a merge: kind, name and identifier of an overload. -/
def key
    (symbol : Symbol) :
    Kind × NameHash × Option UInt64 :=
  (symbol.kind, symbol.name, symbol.identifier?)

/-- Symbols have the same key exactly if their keys are equal. -/
theorem sameKey_iff
    {first second : Symbol} :
    first.sameKey second = true ↔ first.key = second.key := by
  simp [sameKey, key, and_assoc]

/-- Bodies that define the same thing are of one kind and have one identifier. -/
theorem agrees_kind_and_identifier
    {first second : Body}
    (agree : first.agrees second = true) :
    first.kind = second.kind ∧
      first.signature?.map Signature.identifier =
        second.signature?.map Signature.identifier := by
  unfold Body.agrees at agree
  split at agree
  · simp only [Signature.agrees, Bool.and_eq_true, decide_eq_true_eq] at agree
    exact ⟨rfl, congrArg some agree.1.1⟩
  · simp only [Signature.agrees, Bool.and_eq_true, decide_eq_true_eq] at agree
    exact ⟨rfl, congrArg some agree.1.1⟩
  · have same : first = second := by
      simpa using agree
    exact ⟨congrArg Body.kind same, by rw [same]⟩

/-- Symbols with the same definition have the same key. -/
theorem key_eq_of_sameDefinition
    {first second : Symbol}
    (same : first.sameDefinition second = true) :
    first.key = second.key := by
  simp only [sameDefinition, Bool.and_eq_true, decide_eq_true_eq] at same
  obtain ⟨⟨sameName, -⟩, agree⟩ := same
  obtain ⟨sameKind, sameIdentifier⟩ := agrees_kind_and_identifier agree
  exact Prod.ext sameKind (Prod.ext sameName sameIdentifier)

/-- Symbols with the same definition are of one kind. -/
theorem kind_eq_of_sameDefinition
    {first second : Symbol}
    (same : first.sameDefinition second = true) :
    first.kind = second.kind :=
  congrArg Prod.fst (key_eq_of_sameDefinition same)

/-- Symbols with the same definition have one name. -/
theorem name_eq_of_sameDefinition
    {first second : Symbol}
    (same : first.sameDefinition second = true) :
    first.name = second.name :=
  congrArg (fun key => key.2.1) (key_eq_of_sameDefinition same)

end Symbol

namespace Merge

/-- What becomes of a symbol in a merge. -/
inductive Fate where
  /-- Its definition was already held. -/
  | collapsed
  /-- Another definition is held under its key. -/
  | rejected
  | appended
  deriving Repr, DecidableEq

/-- Whether the definition of a symbol is held. -/
def isHeld
    (held : List Symbol)
    (symbol : Symbol) :
    Bool :=
  held.any fun other => other.sameDefinition symbol

/-- Whether something is held under the key of a symbol. -/
def isOccupied
    (held : List Symbol)
    (symbol : Symbol) :
    Bool :=
  held.any fun other => other.sameKey symbol

/-- Whether an input repeats a held definition under the key of a symbol. -/
def contributes
    (held incoming : List Symbol)
    (symbol : Symbol) :
    Bool :=
  incoming.any fun other => other.sameKey symbol && isHeld held other

/-- What becomes of a symbol of an input, given what was held before the input. -/
def verdict
    (held incoming : List Symbol)
    (symbol : Symbol) :
    Fate :=
  if isHeld held symbol then
    .collapsed
  else if isOccupied held symbol && !contributes held incoming symbol then
    .rejected
  else
    .appended

/-- What is held after an input. -/
def settle
    (held incoming : List Symbol) :
    List Symbol :=
  held ++ incoming.filter fun symbol => verdict held incoming symbol = .appended

/-- The rejected symbols of an input, each behind the first one held under its key. -/
def disputes
    (held incoming : List Symbol) :
    List (Symbol × Symbol) :=
  incoming.filterMap fun symbol =>
    if verdict held incoming symbol = .rejected then
      (held.find? fun other => other.sameKey symbol).map fun kept => (kept, symbol)
    else
      none

/-- The rejected symbols of several inputs. -/
def disputesAll :
    List (List Symbol) → (held : List Symbol) → List (Symbol × Symbol)
  | [], _ =>
      []
  | incoming :: rest, held =>
      disputes held incoming ++ disputesAll rest (settle held incoming)

/-- Something is found under the key of a symbol exactly if the key is occupied. -/
theorem isSome_find?_sameKey
    (held : List Symbol)
    (symbol : Symbol) :
    (held.find? fun other => other.sameKey symbol).isSome = isOccupied held symbol :=
  List.isSome_find?

/-- A symbol collapses exactly if its definition is held. -/
theorem verdict_eq_collapsed_iff
    {held incoming : List Symbol}
    {symbol : Symbol} :
    verdict held incoming symbol = .collapsed ↔ isHeld held symbol = true := by
  unfold verdict
  cases isHeld held symbol <;>
    cases isOccupied held symbol <;>
    cases contributes held incoming symbol <;>
    simp

/-- A symbol is rejected when its key is occupied by definitions that its input lacks. -/
theorem verdict_eq_rejected_iff
    {held incoming : List Symbol}
    {symbol : Symbol} :
    verdict held incoming symbol = .rejected ↔
      isHeld held symbol = false ∧
        isOccupied held symbol = true ∧
        contributes held incoming symbol = false := by
  unfold verdict
  cases isHeld held symbol <;>
    cases isOccupied held symbol <;>
    cases contributes held incoming symbol <;>
    simp

/-- Where nothing is held yet, everything is appended. -/
theorem verdict_nil
    (incoming : List Symbol)
    (symbol : Symbol) :
    verdict [] incoming symbol = .appended := by
  simp [verdict, isHeld, isOccupied]

/-- The first input is taken over as it is. -/
theorem settle_nil
    (incoming : List Symbol) :
    settle [] incoming = incoming := by
  simp [settle, verdict_nil]

/-- The first input disputes nothing. -/
theorem disputes_nil
    (incoming : List Symbol) :
    disputes [] incoming = [] := by
  simp [disputes, verdict_nil]

/-- Later inputs dispute what the earlier ones settled. -/
theorem disputesAll_append
    (inputs later : List (List Symbol))
    (held : List Symbol) :
    disputesAll (inputs ++ later) held =
      disputesAll inputs held ++ disputesAll later (inputs.foldl settle held) := by
  induction inputs generalizing held with
  | nil =>
      rfl
  | cons incoming rest inductionHypothesis =>
      simp only [List.cons_append, disputesAll, List.foldl_cons,
        inductionHypothesis, List.append_assoc]

/-- The symbols of a list of holdings. -/
def heldSymbols
    (holdings : List Holding) :
    List Symbol :=
  holdings.map Holding.symbol

/-- The two symbols of a clash. -/
def Clash.symbols
    (clash : Clash) :
    Symbol × Symbol :=
  (clash.kept.symbol, clash.rejected.symbol)

/-- All origins noted so far are numbered below a start. -/
def OriginsBelow
    (start : Nat)
    (holdings : List Holding) :
    Prop :=
  ∀ holding ∈ holdings, ∀ origin ∈ holding.origins, origin < start

/-- An input is credited with something under a key. -/
def Contributed
    (input : Nat)
    (key : Kind × NameHash × Option UInt64)
    (holdings : List Holding) :
    Prop :=
  ∃ holding ∈ holdings, holding.symbol.key = key ∧ input ∈ holding.origins

/-- A contribution is to the first holding or to a later one. -/
theorem contributed_cons
    {input : Nat}
    {key : Kind × NameHash × Option UInt64}
    {holding : Holding}
    {rest : List Holding} :
    Contributed input key (holding :: rest) ↔
      (holding.symbol.key = key ∧ input ∈ holding.origins) ∨
        Contributed input key rest := by
  simp [Contributed]

theorem contributed_append
    {input : Nat}
    {key : Kind × NameHash × Option UInt64}
    {front behind : List Holding} :
    Contributed input key (front ++ behind) ↔
      Contributed input key front ∨ Contributed input key behind := by
  simp [Contributed, or_and_right, exists_or]

/-- An input above all origins has contributed nothing yet. -/
theorem not_contributed_of_originsBelow
    {input : Nat}
    {holdings : List Holding}
    (below : OriginsBelow input holdings)
    (key : Kind × NameHash × Option UInt64) :
    ¬ Contributed input key holdings := by
  rintro ⟨holding, member, -, credited⟩
  exact Nat.lt_irrefl input (below holding member input credited)

namespace Holding

/-- Crediting an input keeps the symbol. -/
@[simp]
theorem symbol_credit
    (holding : Holding)
    (input : Nat) :
    (holding.credit input).symbol = holding.symbol := by
  unfold credit
  split <;> rfl

/-- After crediting, the origins are the old ones and the input. -/
theorem mem_origins_credit
    {holding : Holding}
    {input origin : Nat} :
    origin ∈ (holding.credit input).origins ↔
      origin ∈ holding.origins ∨ origin = input := by
  unfold credit
  split
  next known =>
    constructor
    · exact Or.inl
    · rintro (old | rfl)
      · exact old
      · exact known
  next =>
    simp

end Holding

/-- An input can be credited exactly if the definition is held. -/
theorem isSome_creditFirst?
    (input : Nat)
    (symbol : Symbol)
    (holdings : List Holding) :
    (creditFirst? input symbol holdings).isSome =
      isHeld (heldSymbols holdings) symbol := by
  induction holdings with
  | nil =>
      rfl
  | cons holding rest inductionHypothesis =>
      by_cases same : holding.symbol.sameDefinition symbol = true
      · simp [creditFirst?, isHeld, heldSymbols, same]
      · simpa [creditFirst?, isHeld, heldSymbols, same] using inductionHypothesis

/-- Crediting an input credits one holding of the definition and keeps the others. -/
theorem creditFirst?_eq_some
    {input : Nat}
    {symbol : Symbol}
    {holdings credited : List Holding}
    (found : creditFirst? input symbol holdings = some credited) :
    ∃ front holding behind,
      holdings = front ++ holding :: behind ∧
        holding.symbol.sameDefinition symbol = true ∧
        credited = front ++ holding.credit input :: behind := by
  induction holdings generalizing credited with
  | nil =>
      simp [creditFirst?] at found
  | cons first rest inductionHypothesis =>
      by_cases same : first.symbol.sameDefinition symbol = true
      · simp only [creditFirst?, same, ↓reduceIte, Option.some.injEq] at found
        exact ⟨[], first, rest, rfl, same, found.symm⟩
      · simp only [creditFirst?, same] at found
        obtain ⟨later, laterFound, rfl⟩ := Option.map_eq_some_iff.mp found
        obtain ⟨front, holding, behind, rfl, sameLater, rfl⟩ :=
          inductionHypothesis laterFound
        exact ⟨first :: front, holding, behind, rfl, sameLater, rfl⟩

/-- Crediting keeps all symbols in their places. -/
theorem heldSymbols_creditFirst?
    {input : Nat}
    {symbol : Symbol}
    {holdings credited : List Holding}
    (found : creditFirst? input symbol holdings = some credited) :
    heldSymbols credited = heldSymbols holdings := by
  obtain ⟨front, holding, behind, rfl, -, rfl⟩ := creditFirst?_eq_some found
  simp [heldSymbols]

/-- Crediting contributes to the key of the credited symbol and to no other key. -/
theorem contributed_creditFirst?
    {input : Nat}
    {symbol : Symbol}
    {holdings credited : List Holding}
    (found : creditFirst? input symbol holdings = some credited)
    (key : Kind × NameHash × Option UInt64) :
    Contributed input key credited ↔
      Contributed input key holdings ∨ symbol.key = key := by
  obtain ⟨front, holding, behind, rfl, same, rfl⟩ := creditFirst?_eq_some found
  have sameKey := Symbol.key_eq_of_sameDefinition same
  rw [contributed_append, contributed_append, contributed_cons, contributed_cons,
    Holding.symbol_credit, Holding.mem_origins_credit, sameKey]
  constructor
  · rintro (before | ⟨atKey, -⟩ | later)
    · exact Or.inl (Or.inl before)
    · exact Or.inr atKey
    · exact Or.inl (Or.inr (Or.inr later))
  · rintro ((before | ⟨atKey, noted⟩ | later) | atKey)
    · exact Or.inl before
    · exact Or.inr (Or.inl ⟨atKey, Or.inl noted⟩)
    · exact Or.inr (Or.inr later)
    · exact Or.inr (Or.inl ⟨atKey, Or.inr rfl⟩)

/-- Crediting notes no origin but the credited input. -/
theorem originsBelow_creditFirst?
    {input start : Nat}
    {symbol : Symbol}
    {holdings credited : List Holding}
    (found : creditFirst? input symbol holdings = some credited)
    (below : OriginsBelow start holdings)
    (inputBelow : input < start) :
    OriginsBelow start credited := by
  obtain ⟨front, holding, behind, rfl, -, rfl⟩ := creditFirst?_eq_some found
  intro listed member origin noted
  rcases List.mem_append.mp member with before | later
  · exact below listed (List.mem_append_left _ before) origin noted
  · rcases List.mem_cons.mp later with rfl | last
    · rcases Holding.mem_origins_credit.mp noted with old | rfl
      · exact below holding (by simp) origin old
      · exact inputBelow
    · exact below listed (by simp [last]) origin noted

/-- Collapsing the symbols of an input keeps all held symbols in their places. -/
theorem heldSymbols_collapse
    (input : Nat)
    (symbols : List Symbol)
    (holdings : List Holding) :
    heldSymbols (collapse input symbols holdings).1 = heldSymbols holdings := by
  induction symbols generalizing holdings with
  | nil =>
      rfl
  | cons symbol rest inductionHypothesis =>
      simp only [collapse]
      cases found : creditFirst? input symbol holdings with
      | none =>
          exact inductionHypothesis holdings
      | some credited =>
          exact (inductionHypothesis credited).trans
            (heldSymbols_creditFirst? found)

/-- The symbols of an input that are not yet held are pending, in order. -/
theorem pending_collapse
    (input : Nat)
    (symbols : List Symbol)
    (holdings : List Holding) :
    (collapse input symbols holdings).2 =
      symbols.filter fun symbol => !isHeld (heldSymbols holdings) symbol := by
  induction symbols generalizing holdings with
  | nil =>
      rfl
  | cons symbol rest inductionHypothesis =>
      have creditable := isSome_creditFirst? input symbol holdings
      simp only [collapse]
      cases found : creditFirst? input symbol holdings with
      | none =>
          have notHeld : isHeld (heldSymbols holdings) symbol = false := by
            simpa [found] using creditable.symm
          simp [notHeld, inductionHypothesis holdings]
      | some credited =>
          have held : isHeld (heldSymbols holdings) symbol = true := by
            simpa [found] using creditable.symm
          simp [held, inductionHypothesis credited,
            heldSymbols_creditFirst? found]

/-- After collapsing, an input is credited where it was and where it repeats something. -/
theorem contributed_collapse
    (input : Nat)
    (symbols : List Symbol)
    (holdings : List Holding)
    (key : Kind × NameHash × Option UInt64) :
    Contributed input key (collapse input symbols holdings).1 ↔
      Contributed input key holdings ∨
        ∃ symbol ∈ symbols,
          symbol.key = key ∧ isHeld (heldSymbols holdings) symbol = true := by
  induction symbols generalizing holdings with
  | nil =>
      simp [collapse]
  | cons symbol rest inductionHypothesis =>
      have creditable := isSome_creditFirst? input symbol holdings
      simp only [collapse]
      cases found : creditFirst? input symbol holdings with
      | none =>
          have notHeld : isHeld (heldSymbols holdings) symbol = false := by
            simpa [found] using creditable.symm
          simp [notHeld, inductionHypothesis holdings]
      | some credited =>
          have held : isHeld (heldSymbols holdings) symbol = true := by
            simpa [found] using creditable.symm
          simp only [inductionHypothesis credited,
            heldSymbols_creditFirst? found,
            contributed_creditFirst? found key]
          simp [held, or_assoc]

/-- Collapsing notes no origin but its input. -/
theorem originsBelow_collapse
    {input start : Nat}
    (symbols : List Symbol)
    {holdings : List Holding}
    (below : OriginsBelow start holdings)
    (inputBelow : input < start) :
    OriginsBelow start (collapse input symbols holdings).1 := by
  induction symbols generalizing holdings with
  | nil =>
      exact below
  | cons symbol rest inductionHypothesis =>
      simp only [collapse]
      cases found : creditFirst? input symbol holdings with
      | none =>
          exact inductionHypothesis below
      | some credited =>
          exact inductionHypothesis
            (originsBelow_creditFirst? found below inputBelow)

/-- Whether an input contributes to the key of a symbol, said of keys. -/
theorem contributes_iff
    {held incoming : List Symbol}
    {symbol : Symbol} :
    contributes held incoming symbol = true ↔
      ∃ other ∈ incoming,
        other.key = symbol.key ∧ isHeld held other = true := by
  simp [contributes, Symbol.sameKey_iff]

/--
A symbol that is judged against the collapsed holdings clashes with the first symbol
of its key, unless its input repeats something under that key.
-/
theorem rival?_collapse
    {input : Nat}
    {holdings : List Holding}
    (below : OriginsBelow input holdings)
    (symbols : List Symbol)
    (symbol : Symbol) :
    (rival? input (collapse input symbols holdings).1 symbol).map
        Holding.symbol =
      if contributes (heldSymbols holdings) symbols symbol then
        none
      else
        (heldSymbols holdings).find? fun other => other.sameKey symbol := by
  have credited :
      ((collapse input symbols holdings).1.filter fun holding =>
          holding.symbol.sameKey symbol).any
            (fun holding => input ∈ holding.origins) =
        contributes (heldSymbols holdings) symbols symbol := by
    rw [Bool.eq_iff_iff, contributes_iff]
    have collapsedCredit :=
      contributed_collapse input symbols holdings symbol.key
    simp only [not_contributed_of_originsBelow below, false_or]
      at collapsedCredit
    rw [← collapsedCredit]
    simp [Contributed, Symbol.sameKey_iff]
  have firstOfKey :
      ((collapse input symbols holdings).1.filter fun holding =>
          holding.symbol.sameKey symbol).head?.map Holding.symbol =
        (heldSymbols holdings).find? fun other => other.sameKey symbol := by
    rw [← heldSymbols_collapse input symbols holdings, List.head?_filter,
      heldSymbols, List.find?_map]
    rfl
  unfold rival?
  simp only [credited]
  split
  · rfl
  · exact firstOfKey

/-- A pending symbol is admitted exactly if its verdict is to append it. -/
theorem verdict_eq_appended_iff
    {input : Nat}
    {holdings : List Holding}
    (below : OriginsBelow input holdings)
    (symbols : List Symbol)
    (symbol : Symbol) :
    verdict (heldSymbols holdings) symbols symbol = .appended ↔
      isHeld (heldSymbols holdings) symbol = false ∧
        rival? input (collapse input symbols holdings).1 symbol = none := by
  have rival := rival?_collapse below symbols symbol
  have occupied := isSome_find?_sameKey (heldSymbols holdings) symbol
  rw [← Option.map_eq_none_iff (f := Holding.symbol), rival]
  unfold verdict
  cases isHeld (heldSymbols holdings) symbol with
  | true =>
      simp
  | false =>
      cases contributes (heldSymbols holdings) symbols symbol with
      | true =>
          simp
      | false =>
          simp [← occupied]

/-- What is held after taking in an input is settled by the verdicts alone. -/
theorem heldSymbols_takeIn
    {input : Nat}
    {holdings : List Holding}
    (below : OriginsBelow input holdings)
    (symbols : List Symbol) :
    heldSymbols (takeIn input symbols holdings).1 =
      settle (heldSymbols holdings) symbols := by
  have admitted :
      ((collapse input symbols holdings).2.filter fun symbol =>
          (rival? input (collapse input symbols holdings).1 symbol).isNone) =
        symbols.filter fun symbol =>
          verdict (heldSymbols holdings) symbols symbol = .appended := by
    rw [pending_collapse, List.filter_filter]
    apply List.filter_congr
    intro symbol _
    rw [Bool.eq_iff_iff, decide_eq_true_eq,
      verdict_eq_appended_iff below symbols symbol]
    simp [and_comm]
  unfold takeIn settle
  simp only [heldSymbols, List.map_append, List.map_map, admitted]
  exact congrArg₂ (· ++ ·) (heldSymbols_collapse input symbols holdings)
    (List.map_id _)

/-- The clashes of an input are the disputes that follow from the verdicts. -/
theorem clashes_takeIn
    {input : Nat}
    {holdings : List Holding}
    (below : OriginsBelow input holdings)
    (symbols : List Symbol) :
    (takeIn input symbols holdings).2.map Clash.symbols =
      disputes (heldSymbols holdings) symbols := by
  unfold takeIn disputes
  simp only [pending_collapse, List.filterMap_filter, List.map_filterMap]
  apply List.filterMap_congr
  intro symbol _
  have rival := rival?_collapse below symbols symbol
  have occupied := isSome_find?_sameKey (heldSymbols holdings) symbol
  have clash :
      (clash? input (collapse input symbols holdings).1 symbol).map
          Clash.symbols =
        ((rival? input (collapse input symbols holdings).1 symbol).map
          Holding.symbol).map fun kept => (kept, symbol) := by
    simp [clash?, Option.map_map, Function.comp_def, Clash.symbols]
  unfold verdict
  cases isHeld (heldSymbols holdings) symbol with
  | true =>
      simp
  | false =>
      cases contributed : contributes (heldSymbols holdings) symbols symbol with
      | true =>
          rw [contributed] at rival
          simp only [Bool.not_false, ↓reduceIte, clash, rival]
          simp
      | false =>
          rw [contributed] at rival
          simp only [Bool.not_false, ↓reduceIte, clash, rival, ← occupied]
          cases (heldSymbols holdings).find? fun other => other.sameKey symbol <;>
            simp

/-- Taking in an input notes no origin but that input. -/
theorem originsBelow_takeIn
    {input : Nat}
    {holdings : List Holding}
    (below : OriginsBelow input holdings)
    (symbols : List Symbol) :
    OriginsBelow (input + 1) (takeIn input symbols holdings).1 := by
  have widened : OriginsBelow (input + 1) holdings :=
    fun holding member origin noted =>
      Nat.lt_succ_of_lt (below holding member origin noted)
  have collapsed :=
    originsBelow_collapse symbols widened (Nat.lt_succ_self input)
  unfold takeIn
  intro holding member origin noted
  rcases List.mem_append.mp member with old | new
  · exact collapsed holding old origin noted
  · obtain ⟨symbol, -, rfl⟩ := List.mem_map.mp new
    obtain rfl : origin = input := by
      simpa using noted
    exact Nat.lt_succ_self origin

/--
Taking in several inputs is settling them one after another, and the clashes are the
disputes on the way.  The numbers of the inputs do not matter beyond being new.
-/
theorem takeInAll_eq_settle
    {start : Nat}
    {holdings : List Holding}
    (below : OriginsBelow start holdings)
    (inputs : List (List Symbol)) :
    heldSymbols (takeInAll start inputs holdings).1 =
        inputs.foldl settle (heldSymbols holdings) ∧
      (takeInAll start inputs holdings).2.map Clash.symbols =
        disputesAll inputs (heldSymbols holdings) := by
  induction inputs generalizing start holdings with
  | nil =>
      exact ⟨rfl, rfl⟩
  | cons symbols rest inductionHypothesis =>
      have held := heldSymbols_takeIn below symbols
      obtain ⟨laterHeld, laterClashes⟩ :=
        inductionHypothesis (originsBelow_takeIn below symbols)
      rw [held] at laterHeld laterClashes
      refine ⟨laterHeld, ?_⟩
      simp only [takeInAll, List.map_append, laterClashes,
        clashes_takeIn below symbols, disputesAll]

end Merge

end SymbolDatabase
