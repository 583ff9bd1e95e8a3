import Mathlib.Data.List.Nodup
import Mathlib.Data.List.Perm.Subperm
import SymbolDatabase.Proofs.Merge.Outcome

namespace SymbolDatabase

/-!
# Databases restored from their snapshots

A snapshot leaves out the names that no symbol refers to.  What is left resolves
every stored type as before, so identifiers are recomputed as before; nothing else in
a snapshot that a database made of itself can be refused.
-/

theorem nodup_eraseDups
    {α : Type}
    [BEq α]
    [LawfulBEq α]
    (items : List α) :
    items.eraseDups.Nodup := by
  cases items with
  | nil =>
      exact List.nodup_nil
  | cons first rest =>
      rw [List.eraseDups_cons, List.nodup_cons]
      constructor
      · simp
      · exact nodup_eraseDups (rest.filter fun other => !other == first)
termination_by items.length
decreasing_by
  exact Nat.lt_succ_of_le (List.length_filter_le _ rest)

namespace NameTable

/-- The names that a list of hashes leads to have just the bound ones of the hashes. -/
theorem map_hash_filterMap_find?
    (table : NameTable)
    (hashes : List NameHash) :
    (hashes.filterMap table.find?).map Name.hash =
      hashes.filter table.contains := by
  induction hashes with
  | nil =>
      rfl
  | cons hash rest inductionHypothesis =>
      cases found : table.find? hash with
      | none =>
          simp [found, contains, inductionHypothesis]
      | some name =>
          have sameHash := hash_of_find? found
          simp [found, contains, inductionHypothesis, sameHash]

/-- A stored name with its own hash is restored by binding it. -/
theorem restore_eq_bind
    (table : NameTable)
    {name : Name}
    (genuine : name.hash = NameHash.ofText name.text) :
    table.restore name = table.bind name.hash name.text := by
  have notAbsent : name ≠ Name.absent := by
    rintro rfl
    -- The empty text has a hash of its own, which is not the reserved one.
    exact absurd genuine (by decide)
  rw [restore, if_neg notAbsent]
  simp only [← genuine, ↓reduceIte]

end NameTable

namespace Snapshot

/-- Names with their own hashes are restored as they are absorbed. -/
theorem restoreNames_of_absorb
    {table restored : NameTable}
    {names : List Name}
    (genuine : ∀ name ∈ names, name.hash = NameHash.ofText name.text)
    (absorbed : table.absorb names = (.ok (), restored)) :
    restoreNames table names = .ok restored := by
  induction names generalizing table with
  | nil =>
      simpa [restoreNames, NameTable.absorb] using absorbed
  | cons name rest inductionHypothesis =>
      rw [restoreNames, table.restore_eq_bind (genuine name (by simp))]
      simp only [NameTable.absorb] at absorbed
      cases bound : table.bind name.hash name.text with
      | error error =>
          simp [bound] at absorbed
      | ok result =>
          rw [bound] at absorbed
          exact inductionHypothesis
            (fun later member => genuine later (by simp [member])) absorbed

/-- The names of a well-formed table are restored to that table. -/
theorem restoreNames_names
    {table : NameTable}
    (wellFormed : table.WellFormed) :
    restoreNames NameTable.empty table.names = .ok table :=
  restoreNames_of_absorb wellFormed.hashGenuine (NameTable.absorb_names_self wellFormed)

end Snapshot

namespace Signature

/-- An identifier depends on names only through the resolved types of its slots. -/
theorem identify_congr
    {names others : NameTable}
    {result : Option Slot}
    {parameters : List Slot}
    (sameTypes :
      ∀ slot ∈ result.toList ++ parameters,
        names.resolve slot.type = others.resolve slot.type) :
    identify names result parameters = identify others result parameters := by
  have sameSpelling :
      ∀ slot ∈ result.toList ++ parameters,
        slot.spellingHash names = slot.spellingHash others := by
    intro slot member
    rw [Slot.spellingHash, Slot.spelling, sameTypes slot member, Slot.spellingHash,
      Slot.spelling]
  have sameMixing :
      ∀ start : UInt64,
        parameters.foldl
            (fun identifier slot =>
              NameHash.mix identifier (slot.spellingHash names)) start =
          parameters.foldl
            (fun identifier slot =>
              NameHash.mix identifier (slot.spellingHash others)) start := by
    intro start
    refine List.foldl_ext _ _ _ ?_
    intro identifier slot member
    rw [sameSpelling slot (List.mem_append_right _ member)]
  cases result with
  | none =>
      exact sameMixing 0
  | some slot =>
      have sameStart := sameSpelling slot (by simp)
      unfold identify
      simp only [sameStart]
      exact sameMixing _

end Signature

namespace Symbol

/-- Whether the identifier of a callable is the one that its slots determine. -/
def isGenuine
    (symbol : Symbol)
    (names : NameTable) :
    Bool :=
  symbol.signature?.all fun signature => signature.isGenuine names

theorem isGenuine_iff
    {symbol : Symbol}
    {names : NameTable} :
    symbol.isGenuine names = true ↔
      ∀ signature,
        symbol.signature? = some signature →
          signature.identifier =
            Signature.identify names signature.result signature.parameters := by
  rw [isGenuine, Option.all_eq_true]
  simp only [Signature.isGenuine, decide_eq_true_eq]

/-- The body of a function or method refers to what its signature refers to. -/
theorem references_body_of_signature
    {symbol : Symbol}
    {signature : Signature}
    (callable : symbol.signature? = some signature) :
    symbol.body.references = signature.references := by
  obtain ⟨name, parent, body⟩ := symbol
  cases body with
  | function held =>
      obtain rfl : held = signature := Option.some.inj callable
      rfl
  | method held =>
      obtain rfl : held = signature := Option.some.inj callable
      rfl
  | scope | type | record | enumeration | enumerator | field | template
    | instantiation =>
      cases callable

/-- A symbol refers to the types of its slots. -/
theorem type_mem_references
    {symbol : Symbol}
    {signature : Signature}
    (callable : symbol.signature? = some signature)
    {slot : Slot}
    (member : slot ∈ signature.result.toList ++ signature.parameters)
    (present : slot.type ≠ NameHash.absent) :
    slot.type ∈ symbol.references := by
  have inSignature : slot.type ∈ signature.references :=
    List.mem_flatMap.mpr ⟨slot, member, by simp [Slot.references]⟩
  have inBody : slot.type ∈ symbol.body.references := by
    rw [references_body_of_signature callable]
    exact inSignature
  exact List.mem_filter.mpr
    ⟨List.mem_cons_of_mem _ (List.mem_cons_of_mem _ inBody), by simpa using present⟩

/-- Whether an identifier is genuine depends on the resolved types only. -/
theorem isGenuine_congr
    {symbol : Symbol}
    {names others : NameTable}
    (sameTypes :
      ∀ hash ∈ symbol.references, names.resolve hash = others.resolve hash)
    (sameAbsent :
      names.resolve NameHash.absent = others.resolve NameHash.absent) :
    symbol.isGenuine names = symbol.isGenuine others := by
  unfold isGenuine
  cases callable : symbol.signature? with
  | none =>
      rw [Option.all_none, Option.all_none]
  | some signature =>
      have sameIdentifier :
          Signature.identify names signature.result signature.parameters =
            Signature.identify others signature.result signature.parameters := by
        apply Signature.identify_congr
        intro slot member
        by_cases isAbsent : slot.type = NameHash.absent
        · rw [isAbsent, sameAbsent]
        · exact sameTypes slot.type (type_mem_references callable member isAbsent)
      rw [Option.all_some, Option.all_some, Signature.isGenuine, Signature.isGenuine,
        sameIdentifier]

end Symbol

/-- A record with a known tag is restored if kind, identifier and signature agree. -/
theorem SymbolRecord.restore_of_known
    (entry : SymbolRecord)
    (names : NameTable)
    {kind : Kind}
    (known : Kind.ofTag? entry.tag = some kind) :
    entry.restore names =
      if entry.symbol.kind = kind ∧ entry.symbol.identifier? = entry.identifier ∧
          entry.symbol.isGenuine names = true then
        .ok entry.symbol
      else
        .error .corrupt := by
  rw [restore, known]
  simp only [← and_assoc]
  by_cases sameKind :
    entry.symbol.kind = kind ∧ entry.symbol.identifier? = entry.identifier
  · simp only [sameKind, and_self, true_and, ↓reduceIte]
    rw [Symbol.isGenuine]
    cases entry.symbol.signature? with
    | none =>
        rfl
    | some signature =>
        rfl
  · simp only [sameKind, false_and, ↓reduceIte]

namespace Snapshot

/-- The record of a symbol is restored to the symbol if its identifier is genuine. -/
theorem restore_ofSymbol
    (symbol : Symbol)
    (names : NameTable) :
    (SymbolRecord.ofSymbol symbol).restore names =
      if symbol.isGenuine names then .ok symbol else .error .corrupt := by
  rw [SymbolRecord.restore_of_known _ names symbol.kind.ofTag?_tag]
  simp only [SymbolRecord.symbol, SymbolRecord.ofSymbol, true_and]

/-- The records of symbols are restored unless an identifier is not genuine. -/
theorem restoreSymbols_ofSymbol
    (symbols : List Symbol)
    (names : NameTable) :
    restoreSymbols names (symbols.map SymbolRecord.ofSymbol) =
      if symbols.all fun symbol => symbol.isGenuine names then
        .ok symbols
      else
        .error .corrupt := by
  induction symbols with
  | nil =>
      rfl
  | cons symbol rest inductionHypothesis =>
      rw [List.map_cons, restoreSymbols, restore_ofSymbol, inductionHypothesis,
        List.all_cons]
      cases symbol.isGenuine names <;>
        cases rest.all (fun symbol => symbol.isGenuine names) <;>
        rfl

/-- A record is restored only to a symbol with a genuine identifier. -/
theorem isGenuine_of_restore
    {entry : SymbolRecord}
    {names : NameTable}
    {symbol : Symbol}
    (restored : entry.restore names = .ok symbol) :
    symbol.isGenuine names = true := by
  cases known : Kind.ofTag? entry.tag with
  | none =>
      simp [SymbolRecord.restore, known] at restored
  | some kind =>
      rw [entry.restore_of_known names known] at restored
      split at restored
      next agrees =>
        cases restored
        exact agrees.2.2
      next =>
        cases restored

/-- What records are restored to has genuine identifiers only. -/
theorem isGenuine_of_restoreSymbols
    {names : NameTable}
    {records : List SymbolRecord}
    {symbols : List Symbol}
    (restored : restoreSymbols names records = .ok symbols) :
    ∀ symbol ∈ symbols, symbol.isGenuine names = true := by
  induction records generalizing symbols with
  | nil =>
      cases restored
      intro symbol member
      cases member
  | cons entry rest inductionHypothesis =>
      simp only [restoreSymbols] at restored
      cases first : entry.restore names with
      | error error =>
          simp [first] at restored
      | ok symbol =>
          cases later : restoreSymbols names rest with
          | error error =>
              simp [first, later] at restored
          | ok others =>
              simp only [first, later, Except.ok.injEq] at restored
              subst restored
              intro other member
              rcases List.mem_cons.mp member with isFirst | inRest
              · subst isFirst
                exact isGenuine_of_restore first
              · exact inductionHypothesis later other inRest

end Snapshot

namespace Database

/-- The hashes that stored symbols refer to. -/
def references
    (database : Database) :
    List NameHash :=
  database.store.all.flatMap Symbol.references

/-- The names that a snapshot keeps, as a table. -/
def referencedTable
    (database : Database) :
    NameTable :=
  ⟨database.referencedNames⟩

variable {database first second : Database}

theorem all_congr
    (sameSymbols : ∀ kind, first.symbols kind = second.symbols kind) :
    first.store.all = second.store.all :=
  List.flatMap_congr fun kind _ => sameSymbols kind

theorem references_congr
    (sameAll : first.store.all = second.store.all) :
    first.references = second.references := by
  rw [references, references, sameAll]

/-- The walk that collects names sees no more of them than what is referred to. -/
theorem referencedNames_congr
    (sameAll : first.store.all = second.store.all)
    (sameFound :
      ∀ hash ∈ first.references, first.names.find? hash = second.names.find? hash) :
    first.referencedNames = second.referencedNames := by
  show first.references.eraseDups.filterMap first.names.find? =
    second.references.eraseDups.filterMap second.names.find?
  rw [← references_congr sameAll]
  apply List.filterMap_congr
  intro hash met
  exact sameFound hash (List.mem_eraseDups.mp met)

theorem mem_names_of_mem_referencedNames
    {name : Name}
    (member : name ∈ database.referencedNames) :
    name ∈ database.names.names := by
  obtain ⟨hash, -, found⟩ := List.mem_filterMap.mp member
  exact NameTable.mem_of_find? found

/-- The names that a snapshot keeps make a well-formed table. -/
theorem WellFormed.referencedTable
    (wellFormed : database.WellFormed) :
    database.referencedTable.WellFormed where
  hashesNodup := by
    show ((database.references.eraseDups.filterMap database.names.find?).map
      Name.hash).Nodup
    rw [NameTable.map_hash_filterMap_find?]
    exact (nodup_eraseDups database.references).filter _
  hashPresent name member :=
    wellFormed.names.hashPresent name (mem_names_of_mem_referencedNames member)
  hashGenuine name member :=
    wellFormed.names.hashGenuine name (mem_names_of_mem_referencedNames member)

/-- The names that are saved are those that something refers to. -/
theorem WellFormed.mem_referencedNames
    (wellFormed : database.WellFormed)
    {name : Name} :
    name ∈ database.referencedNames ↔
      name ∈ database.names.names ∧ name.hash ∈ database.references := by
  constructor
  · intro kept
    obtain ⟨hash, referenced, found⟩ := List.mem_filterMap.mp kept
    rw [NameTable.hash_of_find? found]
    exact ⟨NameTable.mem_of_find? found, List.mem_eraseDups.mp referenced⟩
  · rintro ⟨listed, referenced⟩
    have found := NameTable.find?_of_mem wellFormed.names.hashesNodup listed
    exact List.mem_filterMap.mpr ⟨name.hash, List.mem_eraseDups.mpr referenced, found⟩

/-- A snapshot keeps no more names than there are. -/
theorem WellFormed.length_referencedNames_le
    (wellFormed : database.WellFormed) :
    database.referencedNames.length ≤ database.names.names.length := by
  have distinct : database.referencedNames.Nodup :=
    List.Nodup.of_map Name.hash wellFormed.referencedTable.hashesNodup
  have contained : database.referencedNames ⊆ database.names.names :=
    fun _ member => mem_names_of_mem_referencedNames member
  exact (List.subperm_of_subset distinct contained).length_le

/-- A referenced hash is bound among the kept names as it was before. -/
theorem WellFormed.find?_referencedTable
    (wellFormed : database.WellFormed)
    {hash : NameHash}
    (referenced : hash ∈ database.references) :
    database.referencedTable.find? hash = database.names.find? hash := by
  cases found : database.names.find? hash with
  | some name =>
      have sameHash := NameTable.hash_of_find? found
      rw [← sameHash] at referenced ⊢
      have kept : name ∈ database.referencedNames :=
        wellFormed.mem_referencedNames.mpr ⟨NameTable.mem_of_find? found, referenced⟩
      exact NameTable.find?_of_mem wellFormed.referencedTable.hashesNodup kept
  | none =>
      rw [NameTable.find?_eq_none_iff] at found ⊢
      intro name member
      exact found name (mem_names_of_mem_referencedNames member)

theorem WellFormed.resolve_referencedTable
    (wellFormed : database.WellFormed)
    {hash : NameHash}
    (referenced : hash ∈ database.references) :
    database.referencedTable.resolve hash = database.names.resolve hash := by
  rw [NameTable.resolve, NameTable.resolve, wellFormed.find?_referencedTable referenced]

/-- Leaving out unreferenced names changes no recomputed identifier. -/
theorem WellFormed.isGenuine_referencedTable
    (wellFormed : database.WellFormed)
    {symbol : Symbol}
    (stored : symbol ∈ database.store.all) :
    symbol.isGenuine database.referencedTable = symbol.isGenuine database.names := by
  apply Symbol.isGenuine_congr
  · intro hash member
    exact wellFormed.resolve_referencedTable
      (List.mem_flatMap.mpr ⟨symbol, stored, member⟩)
  · rw [wellFormed.names.resolve_absent, wellFormed.referencedTable.resolve_absent]

/-- The database that a snapshot keeps, without unreferenced names. -/
def trimmed
    (database : Database) :
    Database :=
  { names := database.referencedTable
    store := Store.ofSymbols database.store.all
    source := database.source
    hasBaseTypes := database.hasBaseTypes }

/-- Restoring a snapshot gives what it keeps, unless an identifier is not genuine. -/
theorem WellFormed.restore_snapshot
    (wellFormed : database.WellFormed) :
    database.snapshot.restore =
      if database.store.all.all fun symbol => symbol.isGenuine database.names then
        .ok database.trimmed
      else
        .error .corrupt := by
  have namesRestored :
      Snapshot.restoreNames NameTable.empty database.snapshot.names =
        .ok database.referencedTable :=
    Snapshot.restoreNames_names wellFormed.referencedTable
  have sameVerdicts :
      (database.store.all.all fun symbol =>
          symbol.isGenuine database.referencedTable) =
        database.store.all.all fun symbol => symbol.isGenuine database.names := by
    rw [Bool.eq_iff_iff, List.all_eq_true, List.all_eq_true]
    refine forall₂_congr fun symbol member => ?_
    rw [wellFormed.isGenuine_referencedTable member]
  have symbolsRestored :
      Snapshot.restoreSymbols database.referencedTable database.snapshot.records =
        if database.store.all.all fun symbol => symbol.isGenuine database.names then
          .ok database.store.all
        else
          .error .corrupt := by
    rw [← sameVerdicts]
    exact Snapshot.restoreSymbols_ofSymbol _ _
  have isCurrent : database.snapshot.version = Snapshot.currentVersion :=
    rfl
  rw [Snapshot.restore, if_pos isCurrent, namesRestored]
  simp only [symbolsRestored]
  cases database.store.all.all (fun symbol => symbol.isGenuine database.names) with
  | true =>
      rfl
  | false =>
      rfl

/-- A database holds what another one holds, as far as a file can tell. -/
structure SameContent
    (database other : Database) :
    Prop where
  snapshot :
    database.snapshot = other.snapshot
  symbols :
    ∀ kind, database.symbols kind = other.symbols kind
  source :
    database.source = other.source
  hasBaseTypes :
    database.hasBaseTypes = other.hasBaseTypes
  names :
    ∀ kind, ∀ symbol ∈ database.symbols kind, ∀ hash ∈ symbol.references,
      database.names.resolve hash = other.names.resolve hash

theorem mem_all_iff
    {symbol : Symbol} :
    symbol ∈ database.store.all ↔ ∃ kind, symbol ∈ database.symbols kind := by
  constructor
  · intro member
    obtain ⟨kind, -, inKind⟩ := List.mem_flatMap.mp member
    exact ⟨kind, inKind⟩
  · rintro ⟨kind, inKind⟩
    exact List.mem_flatMap.mpr ⟨kind, Kind.mem_all kind, inKind⟩

theorem WellFormed.symbols_trimmed
    (wellFormed : database.WellFormed)
    (kind : Kind) :
    database.trimmed.symbols kind = database.symbols kind := by
  show (Store.ofSymbols database.store.all).symbols kind = _
  rw [Store.symbols_ofSymbols]
  exact Kind.filter_flatMap_all wellFormed.sorted kind

/-- Leaving out unreferenced names changes nothing that a file can tell. -/
theorem WellFormed.sameContent_trimmed
    (wellFormed : database.WellFormed) :
    database.SameContent database.trimmed := by
  have sameSymbols := wellFormed.symbols_trimmed
  have sameAll : database.trimmed.store.all = database.store.all :=
    all_congr sameSymbols
  have sameNames : database.trimmed.referencedNames = database.referencedNames := by
    refine referencedNames_congr sameAll fun hash referenced => ?_
    rw [references_congr sameAll] at referenced
    exact wellFormed.find?_referencedTable referenced
  constructor
  · rw [Database.snapshot, Database.snapshot, sameNames, sameAll]
    rfl
  · exact fun kind => (sameSymbols kind).symm
  · rfl
  · rfl
  · intro kind symbol member hash referenced
    have stored := mem_all_iff.mpr ⟨kind, member⟩
    exact (wellFormed.resolve_referencedTable
      (List.mem_flatMap.mpr ⟨symbol, stored, referenced⟩)).symm

end Database

end SymbolDatabase
