import SymbolDatabase.Proofs.Container
import SymbolDatabase.Proofs.Restore

namespace SymbolDatabase

/-!
# Databases saved and loaded again

Both file formats carry the snapshot of a database unchanged.  So whatever a client
holds can be loaded again exactly if every stored identifier is the one that the
database itself determines, and what is loaded then has the content that was saved.
-/

namespace Database

variable {database : Database}

/-- Every stored function and method has the identifier that its slots determine. -/
def Genuine
    (database : Database) :
    Prop :=
  ∀ kind, ∀ symbol ∈ database.symbols kind,
    ∀ signature,
      symbol.signature? = some signature →
        signature.identifier =
          Signature.identify database.names signature.result signature.parameters

theorem genuine_iff :
    database.Genuine ↔
      (database.store.all.all fun symbol => symbol.isGenuine database.names) =
        true := by
  rw [List.all_eq_true]
  constructor
  · intro genuine symbol member
    obtain ⟨kind, inKind⟩ := mem_all_iff.mp member
    exact Symbol.isGenuine_iff.mpr (genuine kind symbol inKind)
  · intro genuine kind symbol inKind
    exact Symbol.isGenuine_iff.mp (genuine symbol (mem_all_iff.mpr ⟨kind, inKind⟩))

instance (database : Database) : Decidable database.Genuine :=
  decidable_of_iff _ genuine_iff.symm

/-- The document of a database leads to what its snapshot restores to. -/
theorem ofDocument_toDocument
    (database : Database) :
    Database.ofDocument database.toDocument = database.snapshot.restore := by
  rw [Database.ofDocument, Database.toDocument,
    Snapshot.ofDocument_indentedDocument]
  rfl

theorem length_records
    (database : Database) :
    database.snapshot.records.length = database.size := by
  show (database.store.all.map SymbolRecord.ofSymbol).length = _
  rw [List.length_map, Store.all, List.length_flatMap, Database.size, Store.size]
  congr 1

/--
The container of a database leads to what its snapshot restores to.  Only a document
that no 64-bit length describes would not be found again.
-/
theorem ofContainer_toContainer
    (database : Database)
    (fewNames : database.snapshot.names.length < UInt32.size)
    (fewRecords : database.snapshot.records.length < UInt32.size) :
    ∃ container,
      database.toContainer = .ok container ∧
        container.length =
          Container.headerLength + database.snapshot.compactDocument.length +
            Container.trailerLength ∧
        Database.ofContainer container =
          if database.snapshot.compactDocument.length < UInt64.size then
            database.snapshot.restore
          else
            .error .corrupt := by
  obtain ⟨container, packed, framed, unpacked⟩ :=
    Container.unpack_pack database.snapshot fewNames fewRecords
  refine ⟨container, packed, framed, ?_⟩
  rw [Database.ofContainer, unpacked]
  by_cases fits : database.snapshot.compactDocument.length < UInt64.size
  · rw [if_pos fits, if_pos fits]
  · rw [if_neg fits, if_neg fits]

/-- A container that was packed is as long as its parts, and loaded like its snapshot. -/
theorem ofContainer_of_toContainer
    {container : Bytes}
    (packed : database.toContainer = .ok container) :
    container.length =
        Container.headerLength + database.snapshot.compactDocument.length +
          Container.trailerLength ∧
      Database.ofContainer container =
        if database.snapshot.compactDocument.length < UInt64.size then
          database.snapshot.restore
        else
          .error .corrupt := by
  obtain ⟨fewNames, fewRecords⟩ := Container.counts_of_pack packed
  obtain ⟨same, samePacked, framed, loaded⟩ :=
    database.ofContainer_toContainer fewNames fewRecords
  obtain rfl : container = same :=
    Except.ok.inj (packed.symm.trans samePacked)
  exact ⟨framed, loaded⟩

namespace WellFormed

theorem restore_of_genuine
    (wellFormed : database.WellFormed)
    (genuine : database.Genuine) :
    database.snapshot.restore = .ok database.trimmed := by
  rw [wellFormed.restore_snapshot, if_pos (genuine_iff.mp genuine)]

theorem restore_of_not_genuine
    (wellFormed : database.WellFormed)
    (notGenuine : ¬ database.Genuine) :
    database.snapshot.restore = .error .corrupt := by
  rw [wellFormed.restore_snapshot, if_neg (mt genuine_iff.mpr notGenuine)]

/-- The snapshot of a database restores only if the database is genuine. -/
theorem genuine_of_restore_snapshot
    (wellFormed : database.WellFormed)
    {reloaded : Database}
    (restored : database.snapshot.restore = .ok reloaded) :
    database.Genuine := by
  by_contra notGenuine
  rw [wellFormed.restore_of_not_genuine notGenuine] at restored
  cases restored

end WellFormed

end Database

/--
A database that a client holds is loaded again, from its container or its document,
exactly if all its identifiers are genuine, and is refused as corrupt otherwise.  What
is loaded has the content that was saved.  A container is a byte sequence in memory,
so its length is below `UInt64.size`.
-/
theorem reload_of_reachable
    {database : Database}
    (reachable : database.Reachable)
    (fewNames : database.names.names.length < UInt32.size)
    (fewSymbols : database.size < UInt32.size) :
    ∃ container,
      database.toContainer = .ok container ∧
        (database.Genuine →
          ∃ reloaded,
            Database.ofDocument database.toDocument = .ok reloaded ∧
              (container.length < UInt64.size →
                Database.ofContainer container = .ok reloaded) ∧
              database.SameContent reloaded) ∧
        (¬ database.Genuine →
          Database.ofDocument database.toDocument = .error .corrupt ∧
            Database.ofContainer container = .error .corrupt) := by
  have wellFormed := reachable.wellFormed
  have fewKept : database.snapshot.names.length < UInt32.size :=
    Nat.lt_of_le_of_lt wellFormed.length_referencedNames_le fewNames
  have fewRecords : database.snapshot.records.length < UInt32.size := by
    rw [database.length_records]
    exact fewSymbols
  obtain ⟨container, packed, framed, loaded⟩ :=
    database.ofContainer_toContainer fewKept fewRecords
  refine ⟨container, packed, ?_, ?_⟩
  · intro genuine
    have restored := wellFormed.restore_of_genuine genuine
    refine ⟨database.trimmed, ?_, ?_, wellFormed.sameContent_trimmed⟩
    · rw [database.ofDocument_toDocument, restored]
    · intro addressable
      have fits : database.snapshot.compactDocument.length < UInt64.size := by
        omega
      rw [loaded, if_pos fits, restored]
  · intro notGenuine
    have restored := wellFormed.restore_of_not_genuine notGenuine
    constructor
    · rw [database.ofDocument_toDocument, restored]
    · rw [loaded, restored, ite_self]

/-- A unit with a function whose result is of a type that the unit names. -/
def namedResultUnit : Database :=
  let result : Slot :=
    { name := 0
      type := NameHash.ofText "int"
      passing := .pointer
      isConst := true
      offset := 0
      arrayLength := 0 }
  (Change.addFunction "find" 0 (some result) [result]).apply
    ((Change.intern "int").apply Database.empty)

/-- The unit with a named result is loaded again with its content. -/
theorem reload_of_reachable_namedResultUnit :
    ∃ container reloaded,
      namedResultUnit.toContainer = .ok container ∧
        Database.ofDocument namedResultUnit.toDocument = .ok reloaded ∧
        Database.ofContainer container = .ok reloaded ∧
        namedResultUnit.SameContent reloaded := by
  have reachable : namedResultUnit.Reachable :=
    .change _ (.change _ .empty)
  have genuine : namedResultUnit.Genuine := by
    decide
  have short : namedResultUnit.snapshot.compactDocument.length < 1000 := by
    decide +kernel
  obtain ⟨container, packed, loads, -⟩ :=
    reload_of_reachable reachable (by decide) (by decide)
  obtain ⟨reloaded, fromDocument, fromContainer, sameContent⟩ := loads genuine
  have addressable : container.length < UInt64.size := by
    rw [(Database.ofContainer_of_toContainer packed).1]
    simp only [Container.headerLength, Container.trailerLength, UInt64.size]
    omega
  exact ⟨container, reloaded, packed, fromDocument, fromContainer addressable,
    sameContent⟩

end SymbolDatabase
