import SymbolDatabase.Proofs.Merge.Verdict
import SymbolDatabase.Proofs.Reachable

namespace SymbolDatabase

/-!
# What a merge results in

A merge walks the kinds and collects what is held and what clashes among each of
them.  As long as every symbol stands among those of its own kind, each kind of the
result can be read off on its own: its symbols are what the verdicts settle, and its
conflict reports show the disputes.
-/

/-- Entries that are collected kind by kind are found again under their kind. -/
theorem Kind.filter_flatMap_all
    {α : Type}
    {entries : Kind → List α}
    {kindOf : α → Kind}
    (sorted : ∀ kind, ∀ entry ∈ entries kind, kindOf entry = kind)
    (kind : Kind) :
    (Kind.all.flatMap entries).filter (fun entry => kindOf entry = kind) =
      entries kind := by
  have filtered :
      ∀ other,
        (entries other).filter (fun entry => kindOf entry = kind) =
          if other = kind then entries kind else [] := by
    intro other
    by_cases same : other = kind
    · subst same
      simpa using sorted other
    · simp only [same, ↓reduceIte, List.filter_eq_nil_iff, decide_eq_true_eq]
      intro entry member isKind
      exact same ((sorted other entry member).symm.trans isKind)
  rw [List.filter_flatMap]
  simp only [filtered]
  cases kind <;> simp [Kind.all]

namespace Conflict

/-- What a report says apart from names and labels. -/
def content
    (conflict : Conflict) :
    Option UInt64 × Symbol × Symbol :=
  (conflict.identifier, conflict.kept.symbol, conflict.rejected.symbol)

/-- What the reports on a kind say, in order. -/
def contentsOf
    (kind : Kind)
    (conflicts : List Conflict) :
    List (Option UInt64 × Symbol × Symbol) :=
  (conflicts.filter fun conflict => conflict.kind = kind).map content

/-- What two lists of reports say is what each of them says. -/
@[simp]
theorem contentsOf_append
    (kind : Kind)
    (conflicts later : List Conflict) :
    contentsOf kind (conflicts ++ later) =
      contentsOf kind conflicts ++ contentsOf kind later := by
  simp [contentsOf]

/-- There are no reports exactly if there are none on any kind. -/
theorem eq_nil_iff
    {conflicts : List Conflict} :
    conflicts = [] ↔ ∀ kind, contentsOf kind conflicts = [] := by
  constructor
  · rintro rfl kind
    rfl
  · intro none
    rw [List.eq_nil_iff_forall_not_mem]
    intro conflict member
    have listed : conflict.content ∈ contentsOf conflict.kind conflicts :=
      List.mem_map_of_mem (List.mem_filter.mpr ⟨member, by simp⟩)
    rw [none] at listed
    cases listed

end Conflict

namespace Merge

/-- What the report of a dispute says. -/
def disputeContent
    (dispute : Symbol × Symbol) :
    Option UInt64 × Symbol × Symbol :=
  (dispute.2.identifier?, dispute)

/-- Everything that gets settled was held before or stands in an input. -/
theorem mem_foldl_settle
    {inputs : List (List Symbol)}
    {held : List Symbol}
    {symbol : Symbol}
    (member : symbol ∈ inputs.foldl settle held) :
    symbol ∈ held ∨ ∃ input ∈ inputs, symbol ∈ input := by
  induction inputs generalizing held with
  | nil =>
      exact Or.inl member
  | cons incoming rest inductionHypothesis =>
      rcases inductionHypothesis member with settled | ⟨input, later, inInput⟩
      · rcases List.mem_append.mp settled with old | admitted
        · exact Or.inl old
        · exact Or.inr
            ⟨incoming, by simp, (List.mem_filter.mp admitted).1⟩
      · exact Or.inr ⟨input, by simp [later], inInput⟩

/-- The symbols of a kind in each of several inputs. -/
def sequences
    (inputs : List Database)
    (kind : Kind) :
    List (List Symbol) :=
  inputs.map fun input => input.symbols kind

@[simp]
theorem sequences_cons
    (first : Database)
    (rest : List Database)
    (kind : Kind) :
    sequences (first :: rest) kind =
      first.symbols kind :: sequences rest kind :=
  rfl

@[simp]
theorem sequences_append
    (inputs later : List Database)
    (kind : Kind) :
    sequences (inputs ++ later) kind =
      sequences inputs kind ++ sequences later kind :=
  List.map_append

/-- What is settled from symbols of a kind are symbols of that kind. -/
theorem kind_of_mem_foldl_settle
    (held : Kind → List Symbol)
    {inputs : List Database}
    (heldSorted : ∀ kind, ∀ symbol ∈ held kind, symbol.kind = kind)
    (inputsWellFormed : ∀ input ∈ inputs, input.WellFormed)
    (kind : Kind)
    (symbol : Symbol)
    (member : symbol ∈ (sequences inputs kind).foldl settle (held kind)) :
    symbol.kind = kind := by
  rcases mem_foldl_settle member with old | ⟨symbols, listed, inInput⟩
  · exact heldSorted kind symbol old
  · obtain ⟨input, inputMember, rfl⟩ := List.mem_map.mp listed
    exact (inputsWellFormed input inputMember).sorted kind symbol inInput

/--
A database and conflict reports are what merging inputs into held symbols leads to,
said by verdicts alone.
-/
structure Settles
    (names : NameTable)
    (held : Kind → List Symbol)
    (hadBaseTypes : Bool)
    (inputs : List Database)
    (database : Database)
    (conflicts : List Conflict) :
    Prop where
  names :
    database.names = names
  symbols :
    ∀ kind,
      database.symbols kind =
        (sequences inputs kind).foldl settle (held kind)
  hasBaseTypes :
    database.hasBaseTypes = (hadBaseTypes || inputs.any Database.hasBaseTypes)
  contents :
    ∀ kind,
      Conflict.contentsOf kind conflicts =
        (disputesAll (sequences inputs kind) (held kind)).map disputeContent

/-- Two merges came to the same database and reports, labels and wording aside. -/
structure Agree
    (first : Database)
    (firstConflicts : List Conflict)
    (second : Database)
    (secondConflicts : List Conflict) :
    Prop where
  names :
    first.names = second.names
  symbols :
    ∀ kind, first.symbols kind = second.symbols kind
  hasBaseTypes :
    first.hasBaseTypes = second.hasBaseTypes
  contents :
    ∀ kind,
      Conflict.contentsOf kind firstConflicts =
        Conflict.contentsOf kind secondConflicts

/-- The store and the reports of a merge follow from the verdicts, kind by kind. -/
theorem storeAndConflicts_eq
    (start : Nat)
    (held : Kind → List Holding)
    (inputs : List Database)
    (below : ∀ kind, OriginsBelow start (held kind))
    (heldSorted :
      ∀ kind, ∀ symbol ∈ heldSymbols (held kind), symbol.kind = kind)
    (inputsWellFormed : ∀ input ∈ inputs, input.WellFormed)
    (names : NameTable)
    (labels : List String)
    (kind : Kind) :
    (storeAndConflicts start held inputs names labels).1.symbols kind =
        (sequences inputs kind).foldl settle (heldSymbols (held kind)) ∧
      Conflict.contentsOf kind
          (storeAndConflicts start held inputs names labels).2 =
        (disputesAll (sequences inputs kind) (heldSymbols (held kind))).map
          disputeContent := by
  have settled :=
    fun other => takeInAll_eq_settle (below other) (sequences inputs other)
  constructor
  · have sorted :=
      kind_of_mem_foldl_settle (fun other => heldSymbols (held other))
        heldSorted inputsWellFormed
    have shelves :
        ∀ other,
          ∀ symbol ∈
            (symbolsAndClashes start held inputs other).1.map Holding.symbol,
          symbol.kind = other := by
      intro other symbol member
      refine sorted other symbol ?_
      rw [← (settled other).1]
      exact member
    unfold storeAndConflicts
    rw [Store.symbols_ofSymbols, Kind.filter_flatMap_all shelves]
    exact (settled kind).1
  · have reports :
        ∀ other,
          ∀ conflict ∈
            (symbolsAndClashes start held inputs other).2.map
              (fun clash => clash.report other names labels),
          conflict.kind = other := by
      intro other conflict member
      obtain ⟨clash, -, rfl⟩ := List.mem_map.mp member
      rfl
    unfold storeAndConflicts Conflict.contentsOf
    rw [Kind.filter_flatMap_all reports, ← (settled kind).2, List.map_map,
      List.map_map]
    rfl

namespace Settles

/-- What a merge leads to is determined up to wording. -/
theorem agree
    {names : NameTable}
    {held : Kind → List Symbol}
    {hadBaseTypes : Bool}
    {inputs : List Database}
    {first second : Database}
    {firstConflicts secondConflicts : List Conflict}
    (firstSettles :
      Settles names held hadBaseTypes inputs first firstConflicts)
    (secondSettles :
      Settles names held hadBaseTypes inputs second secondConflicts) :
    Agree first firstConflicts second secondConflicts where
  names :=
    firstSettles.names.trans secondSettles.names.symm
  symbols kind :=
    (firstSettles.symbols kind).trans (secondSettles.symbols kind).symm
  hasBaseTypes :=
    firstSettles.hasBaseTypes.trans secondSettles.hasBaseTypes.symm
  contents kind :=
    (firstSettles.contents kind).trans (secondSettles.contents kind).symm

/-- Nothing to take in leads to what was there. -/
theorem nil
    (database : Database) :
    Settles database.names database.symbols database.hasBaseTypes [] database
      [] where
  names :=
    rfl
  symbols _ :=
    rfl
  hasBaseTypes := by
    simp
  contents _ :=
    rfl

/-- Merging further inputs into what a merge led to is merging all inputs. -/
theorem append
    {names laterNames : NameTable}
    {held : Kind → List Symbol}
    {hadBaseTypes : Bool}
    {inputs later : List Database}
    {middle final : Database}
    {conflicts laterConflicts : List Conflict}
    (first : Settles names held hadBaseTypes inputs middle conflicts)
    (second :
      Settles laterNames middle.symbols middle.hasBaseTypes later final
        laterConflicts) :
    Settles laterNames held hadBaseTypes (inputs ++ later) final
      (conflicts ++ laterConflicts) where
  names :=
    second.names
  symbols kind := by
    rw [second.symbols, first.symbols, sequences_append, List.foldl_append]
  hasBaseTypes := by
    rw [second.hasBaseTypes, first.hasBaseTypes, List.any_append, Bool.or_assoc]
  contents kind := by
    rw [Conflict.contentsOf_append, first.contents, second.contents,
      first.symbols, sequences_append, disputesAll_append, List.map_append]

/-- A first input is taken over as it is. -/
theorem of_cons
    {names : NameTable}
    {first : Database}
    {later : List Database}
    {final : Database}
    {conflicts : List Conflict}
    (settles :
      Settles names (fun _ => []) false (first :: later) final conflicts) :
    Settles names first.symbols first.hasBaseTypes later final conflicts where
  names :=
    settles.names
  symbols kind := by
    rw [settles.symbols, sequences_cons, List.foldl_cons, settle_nil]
  hasBaseTypes := by
    rw [settles.hasBaseTypes, List.any_cons, Bool.false_or]
  contents kind := by
    rw [settles.contents, sequences_cons, disputesAll, disputes_nil,
      settle_nil, List.nil_append]

end Settles

end Merge

namespace Database

open Merge

/-- A merge fails exactly as uniting the names does. -/
theorem merge_of_absorb_error
    {inputs : List Database}
    {error : Error}
    {names : NameTable}
    (absorbed :
      NameTable.empty.absorb (inputs.flatMap fun input => input.names.names) =
        (.error error, names)) :
    Database.merge inputs = .error error := by
  simp [Database.merge, absorbed]

/-- A merge succeeds whenever the names can be united, and settles all inputs. -/
theorem merge_of_absorb_ok
    {inputs : List Database}
    {names : NameTable}
    (wellFormed : ∀ input ∈ inputs, input.WellFormed)
    (absorbed :
      NameTable.empty.absorb (inputs.flatMap fun input => input.names.names) =
        (.ok (), names)) :
    ∃ outcome,
      Database.merge inputs = .ok outcome ∧
        Settles names (fun _ => []) false inputs outcome.database
          outcome.conflicts := by
  have results :=
    storeAndConflicts_eq 0 (fun _ => []) inputs
      (by simp [OriginsBelow])
      (by simp [heldSymbols])
      wellFormed names
      (inputs.zipIdx.map fun numbered => Merge.inputLabel numbered.2 numbered.1)
  unfold Database.merge
  simp only [absorbed]
  refine ⟨_, rfl, ?_⟩
  constructor
  · rfl
  · exact fun kind => (results kind).1
  · simp
  · exact fun kind => (results kind).2

/-- Uniting the names of the inputs gives the names of the merge. -/
theorem absorb_of_merge_ok
    {inputs : List Database}
    {outcome : MergeOutcome}
    (merged : Database.merge inputs = .ok outcome) :
    NameTable.empty.absorb (inputs.flatMap fun input => input.names.names) =
      (.ok (), outcome.database.names) := by
  unfold Database.merge at merged
  rcases absorbed :
      NameTable.empty.absorb (inputs.flatMap fun input => input.names.names) with
    ⟨result | result, names⟩
  · simp [absorbed] at merged
  · simp only [absorbed, Except.ok.injEq] at merged
    subst merged
    exact absorbed

/-- A merge that failed could not unite the names of the inputs. -/
theorem absorb_of_merge_error
    {inputs : List Database}
    {error : Error}
    (refused : Database.merge inputs = .error error) :
    ∃ names,
      NameTable.empty.absorb (inputs.flatMap fun input => input.names.names) =
        (.error error, names) := by
  unfold Database.merge at refused
  rcases absorbed :
      NameTable.empty.absorb (inputs.flatMap fun input => input.names.names) with
    ⟨result | result, names⟩
  · simp only [absorbed, Except.error.injEq] at refused
    subst refused
    exact ⟨names, absorbed⟩
  · simp [absorbed] at refused

/-- A merge that succeeded settles all inputs. -/
theorem settles_of_merge_ok
    {inputs : List Database}
    {outcome : MergeOutcome}
    (wellFormed : ∀ input ∈ inputs, input.WellFormed)
    (merged : Database.merge inputs = .ok outcome) :
    Settles outcome.database.names (fun _ => []) false inputs outcome.database
      outcome.conflicts := by
  obtain ⟨found, foundMerged, settles⟩ :=
    merge_of_absorb_ok wellFormed (absorb_of_merge_ok merged)
  obtain rfl : found = outcome := by
    rw [merged] at foundMerged
    exact (Except.ok.inj foundMerged).symm
  exact settles

end Database

namespace Edit

open Merge

/-- Absorbing fails exactly as uniting the names does, and keeps what was bound. -/
theorem absorb_of_absorb_error
    {accumulated input : Database}
    {error : Error}
    {names : NameTable}
    (absorbed :
      accumulated.names.absorb input.names.names = (.error error, names)) :
    Edit.absorb input accumulated =
      (.error error, { accumulated with names := names }) := by
  simp [Edit.absorb, absorbed]

/-- Absorbing keeps the label. -/
theorem source_absorb
    (input accumulated : Database) :
    (Edit.absorb input accumulated).2.source = accumulated.source := by
  unfold Edit.absorb
  split <;> rfl

/-- Absorbing succeeds whenever the names can be united, and settles the input. -/
theorem absorb_of_absorb_ok
    {accumulated input : Database}
    {names : NameTable}
    (wellFormed : accumulated.WellFormed)
    (inputWellFormed : input.WellFormed)
    (absorbed :
      accumulated.names.absorb input.names.names = (.ok (), names)) :
    ∃ conflicts extended,
      Edit.absorb input accumulated = (.ok conflicts, extended) ∧
        Settles names accumulated.symbols accumulated.hasBaseTypes [input]
          extended conflicts := by
  have sameSymbols :
      ∀ kind,
        heldSymbols (holdingsOf accumulated kind) = accumulated.symbols kind := by
    intro kind
    simp [heldSymbols, holdingsOf, Function.comp_def]
  have below :
      ∀ kind, OriginsBelow 1 (holdingsOf accumulated kind) := by
    intro kind holding member origin noted
    obtain ⟨symbol, -, rfl⟩ := List.mem_map.mp member
    obtain rfl : origin = 0 := by
      simpa using noted
    exact Nat.one_pos
  have results :=
    storeAndConflicts_eq 1 (holdingsOf accumulated) [input] below
      (by simpa only [sameSymbols] using wellFormed.sorted)
      (by simpa using inputWellFormed)
      names
      [accumulated.source.getD "accumulated", Merge.inputLabel 1 input]
  simp only [sameSymbols] at results
  unfold Edit.absorb
  simp only [absorbed]
  refine ⟨_, _, rfl, ?_⟩
  constructor
  · rfl
  · exact fun kind => (results kind).1
  · simp
  · exact fun kind => (results kind).2

end Edit

namespace Merge

/-- Three units that declare constants of one name in different scopes. -/
def clashingUnits : List Database :=
  let constant := fun (parent : NameHash) (value : Int64) =>
    Change.addSymbol ⟨7, parent, .enumerator value⟩
  [ (constant 1 0).apply Database.empty,
    (constant 2 3).apply ((constant 1 0).apply Database.empty),
    (constant 3 5).apply Database.empty ]

/-- A client can hold these units. -/
theorem clashingUnits_reachable :
    ∀ input ∈ clashingUnits, input.Reachable := by
  intro input member
  simp only [clashingUnits, List.mem_cons, List.not_mem_nil, or_false] at member
  rcases member with rfl | rfl | rfl
  · exact .change _ .empty
  · exact .change _ (.change _ .empty)
  · exact .change _ .empty

end Merge

end SymbolDatabase
