import SymbolDatabase.Command
import SymbolDatabase.Proofs.Container.Corruption
import SymbolDatabase.Proofs.Reload

namespace SymbolDatabase

/-!
# What saved files depend on

A file says what is stored: the symbols of each kind in order, the label, the flag for
base types, and the texts behind the hashes that symbols refer to.  In which order names
were bound, which further names were bound, and how symbols of different kinds were
interleaved while they were added, cannot be seen from a file.  Conversely a file tells
everything that is stored apart.
-/

/-- A record keeps all of its symbol. -/
@[simp]
theorem SymbolRecord.symbol_ofSymbol
    (symbol : Symbol) :
    (ofSymbol symbol).symbol = symbol :=
  rfl

/-- A bound name is known by its hash, so equal texts make equal names. -/
theorem NameTable.find?_eq_iff_text
    {table other : NameTable}
    {hash : NameHash} :
    table.find? hash = other.find? hash ↔
      (table.find? hash).map Name.text = (other.find? hash).map Name.text := by
  refine ⟨congrArg (Option.map Name.text), ?_⟩
  intro sameText
  cases found : table.find? hash with
  | none =>
      rw [found, Option.map_none] at sameText
      exact (Option.map_eq_none_iff.mp sameText.symm).symm
  | some name =>
      rw [found, Option.map_some] at sameText
      obtain ⟨otherName, otherFound, otherText⟩ :=
        Option.map_eq_some_iff.mp sameText.symm
      obtain ⟨heldHash, heldText⟩ := name
      obtain ⟨otherHash, heldOtherText⟩ := otherName
      obtain rfl : heldHash = hash :=
        hash_of_find? found
      obtain rfl : otherHash = heldHash :=
        hash_of_find? otherFound
      obtain rfl : heldOtherText = heldText :=
        otherText
      exact otherFound.symm

namespace Container

/-- The payload can be told from a container. -/
theorem payload_eq_of_layout_eq
    {flags otherFlags : UInt16}
    {names symbols otherNames otherSymbols : UInt32}
    {payload otherPayload : Bytes}
    (sameBytes :
      layout flags names symbols payload =
        layout otherFlags otherNames otherSymbols otherPayload) :
    payload = otherPayload := by
  have sameLength : payload.length = otherPayload.length := by
    have lengths := congrArg List.length sameBytes
    rw [length_layout, length_layout] at lengths
    omega
  have sameRest := congrArg (List.drop 24) sameBytes
  rw [drop_layout, drop_layout] at sameRest
  exact (List.append_inj sameRest sameLength).1

/-- No two snapshots are packed into the same container. -/
theorem snapshot_eq_of_pack
    {snapshot other : Snapshot}
    {container : Bytes}
    (packed : pack snapshot = .ok container)
    (otherPacked : pack other = .ok container) :
    snapshot = other := by
  obtain ⟨header, -, shape, -⟩ := layout_of_pack packed
  obtain ⟨otherHeader, -, otherShape, -⟩ := layout_of_pack otherPacked
  have samePayload : snapshot.compactDocument = other.compactDocument :=
    payload_eq_of_layout_eq (shape.symm.trans otherShape)
  have read := snapshot.ofDocument_compactDocument
  rw [samePayload, other.ofDocument_compactDocument] at read
  exact (Except.ok.inj read).symm

end Container

namespace Database

variable {first second : Database}

/--
Two databases store the same.  Of the names only the texts of those matter that symbols
refer to, and a hash may be bound in neither of the two.
-/
structure StoresSame
    (first second : Database) :
    Prop where
  symbols :
    ∀ kind, first.symbols kind = second.symbols kind
  source :
    first.source = second.source
  hasBaseTypes :
    first.hasBaseTypes = second.hasBaseTypes
  texts :
    ∀ hash ∈ first.references,
      (first.names.find? hash).map Name.text =
        (second.names.find? hash).map Name.text

/-- Where the same is stored, the same names are collected. -/
theorem StoresSame.referencedNames_eq
    (same : first.StoresSame second) :
    first.referencedNames = second.referencedNames :=
  referencedNames_congr (all_congr same.symbols) fun hash referenced =>
    NameTable.find?_eq_iff_text.mpr (same.texts hash referenced)

/-- What is stored determines the snapshot. -/
theorem StoresSame.snapshot_eq
    (same : first.StoresSame second) :
    first.snapshot = second.snapshot := by
  rw [Database.snapshot, Database.snapshot, same.source, same.hasBaseTypes,
    same.referencedNames_eq, all_congr same.symbols]

/-- The symbols of each kind stand in a snapshot one after another. -/
theorem WellFormed.symbols_eq_of_all
    (wellFormed : first.WellFormed)
    (otherWellFormed : second.WellFormed)
    (sameAll : first.store.all = second.store.all)
    (kind : Kind) :
    first.symbols kind = second.symbols kind := by
  rw [← Kind.filter_flatMap_all wellFormed.sorted kind,
    ← Kind.filter_flatMap_all otherWellFormed.sorted kind]
  exact congrArg (List.filter fun symbol => symbol.kind = kind) sameAll

/-- A name that is referred to is listed in a snapshot, and bound wherever it is listed. -/
theorem WellFormed.find?_eq_some_of_referencedNames
    (otherWellFormed : second.WellFormed)
    (sameNames : first.referencedNames = second.referencedNames)
    {hash : NameHash}
    (referenced : hash ∈ first.references)
    {name : Name}
    (found : first.names.find? hash = some name) :
    second.names.find? hash = some name := by
  have kept : name ∈ first.referencedNames :=
    List.mem_filterMap.mpr ⟨hash, List.mem_eraseDups.mpr referenced, found⟩
  rw [sameNames] at kept
  rw [← NameTable.hash_of_find? found]
  exact NameTable.find?_of_mem otherWellFormed.names.hashesNodup
    (mem_names_of_mem_referencedNames kept)

/-- The snapshot of a well-formed database determines what is stored. -/
theorem WellFormed.storesSame_of_snapshot
    (wellFormed : first.WellFormed)
    (otherWellFormed : second.WellFormed)
    (sameSnapshot : first.snapshot = second.snapshot) :
    first.StoresSame second := by
  have sameAll : first.store.all = second.store.all := by
    have sameRecords :
        first.store.all.map SymbolRecord.ofSymbol =
          second.store.all.map SymbolRecord.ofSymbol :=
      congrArg Snapshot.records sameSnapshot
    have sameSymbols := congrArg (List.map SymbolRecord.symbol) sameRecords
    simpa [Function.comp_def] using sameSymbols
  have sameNames : first.referencedNames = second.referencedNames :=
    congrArg Snapshot.names sameSnapshot
  have sameReferences : first.references = second.references :=
    references_congr sameAll
  refine
    { symbols := wellFormed.symbols_eq_of_all otherWellFormed sameAll
      source := congrArg Snapshot.source sameSnapshot
      hasBaseTypes := congrArg Snapshot.hasBaseTypes sameSnapshot
      texts := ?_ }
  intro hash referenced
  refine NameTable.find?_eq_iff_text.mp (Option.ext fun name => ⟨?_, ?_⟩)
  · exact otherWellFormed.find?_eq_some_of_referencedNames sameNames referenced
  · exact wellFormed.find?_eq_some_of_referencedNames sameNames.symm
      (sameReferences ▸ referenced)

end Database

/-- No two snapshots have the same indented document. -/
theorem Snapshot.eq_of_indentedDocument
    {snapshot other : Snapshot}
    (sameDocument : snapshot.indentedDocument = other.indentedDocument) :
    snapshot = other := by
  have read := snapshot.ofDocument_indentedDocument
  rw [sameDocument, other.ofDocument_indentedDocument] at read
  exact (Except.ok.inj read).symm

/--
Whatever stores the same is saved the same, byte for byte, in both formats and under any
path.  Among databases that a client can hold nothing else is: one document, or one
container, that is saved for two of them shows that they store the same.
-/
theorem saved_files_determined :
    (∀ first second : Database,
        first.StoresSame second →
          first.toContainer = second.toContainer ∧
            first.toDocument = second.toDocument ∧
            ∀ path, first.fileContent path = second.fileContent path) ∧
      ∀ first second : Database,
        first.Reachable →
          second.Reachable →
            (first.toDocument = second.toDocument → first.StoresSame second) ∧
              ∀ container,
                first.toContainer = .ok container →
                  second.toContainer = .ok container →
                    first.StoresSame second := by
  refine ⟨?blind, ?telling⟩
  case blind =>
    intro first second same
    have sameContainer : first.toContainer = second.toContainer := by
      rw [Database.toContainer, Database.toContainer, same.snapshot_eq]
    have sameDocument : first.toDocument = second.toDocument := by
      rw [Database.toDocument, Database.toDocument, same.snapshot_eq]
    refine ⟨sameContainer, sameDocument, ?_⟩
    intro path
    rw [Database.fileContent, Database.fileContent, sameContainer, sameDocument]
  case telling =>
    intro first second reachable otherReachable
    have stored :=
      reachable.wellFormed.storesSame_of_snapshot otherReachable.wellFormed
    constructor
    · intro sameDocument
      exact stored (Snapshot.eq_of_indentedDocument sameDocument)
    · intro container packed otherPacked
      exact stored (Container.snapshot_eq_of_pack packed otherPacked)

/-- A unit with a type in a scope, whose own parent is a hash that nothing is bound to. -/
def plainlyBuiltUnit : Database :=
  (Change.addScope "gui" 7).apply
    ((Change.addType "Pen" (NameHash.ofText "gui") 4).apply Database.empty)

/-- The same unit, where the scope came first and a further name was bound before. -/
def otherwiseBuiltUnit : Database :=
  (Change.addType "Pen" (NameHash.ofText "gui") 4).apply
    ((Change.addScope "gui" 7).apply
      ((Change.intern "unused").apply Database.empty))

/-- The two units list different names in different orders, and are saved alike. -/
theorem saved_files_determined_otherwiseBuiltUnit :
    plainlyBuiltUnit.names.names.map Name.text = ["Pen", "gui"] ∧
      otherwiseBuiltUnit.names.names.map Name.text = ["unused", "gui", "Pen"] ∧
      plainlyBuiltUnit.StoresSame otherwiseBuiltUnit ∧
      plainlyBuiltUnit.toContainer = otherwiseBuiltUnit.toContainer ∧
      plainlyBuiltUnit.toDocument = otherwiseBuiltUnit.toDocument := by
  have reachable : plainlyBuiltUnit.Reachable :=
    .change _ (.change _ .empty)
  have otherReachable : otherwiseBuiltUnit.Reachable :=
    .change _ (.change _ (.change _ .empty))
  have sameStore : plainlyBuiltUnit.store = otherwiseBuiltUnit.store := by
    decide +kernel
  have sameTexts :
      (plainlyBuiltUnit.references.all fun hash =>
        (plainlyBuiltUnit.names.find? hash).map Name.text =
          (otherwiseBuiltUnit.names.find? hash).map Name.text) = true := by
    decide +kernel
  have same : plainlyBuiltUnit.StoresSame otherwiseBuiltUnit :=
    { symbols := fun kind => congrArg (fun store => store.symbols kind) sameStore
      source := by decide +kernel
      hasBaseTypes := by decide +kernel
      texts := fun hash met => of_decide_eq_true (List.all_eq_true.mp sameTexts hash met) }
  obtain ⟨sameContainer, sameDocument, -⟩ := saved_files_determined.1 _ _ same
  have told :=
    (saved_files_determined.2 _ _ reachable otherReachable).1 sameDocument
  exact ⟨by decide +kernel, by decide +kernel, told, sameContainer, sameDocument⟩

end SymbolDatabase
