import Mathlib.Algebra.BigOperators.Group.List.Basic
import SymbolDatabase.Proofs.Container.Corruption
import SymbolDatabase.Proofs.Merge.Reload
import SymbolDatabase.Proofs.Snapshot.Consistency

namespace SymbolDatabase

/-!
# Normalization by loading

A file may list its names in any order, repeat them, list names that nothing refers to or
leave out names that something does refer to, and mix the kinds of its records.  Once it
was loaded and saved it is in a form that loading and saving leave as it is: records stand
by kind, and just the names that are referred to stand in the order of reference.
-/

namespace Store

/-- A store of symbols holds every one of them. -/
theorem length_all_ofSymbols
    (symbols : List Symbol) :
    (ofSymbols symbols).all.length = symbols.length := by
  rw [all, List.length_flatMap]
  simp only [symbols_ofSymbols]
  induction symbols with
  | nil =>
      simp
  | cons symbol rest inductionHypothesis =>
      have counted :
          ∀ kind,
            ((symbol :: rest).filter fun other => other.kind = kind).length =
              (rest.filter fun other => other.kind = kind).length +
                if symbol.kind = kind then 1 else 0 := by
        intro kind
        by_cases ofKind : symbol.kind = kind <;> simp [ofKind]
      have once :
          (Kind.all.map fun kind => if symbol.kind = kind then 1 else 0).sum = 1 := by
        cases symbol.kind <;> rfl
      simp only [counted]
      rw [List.sum_map_add, inductionHypothesis, once, List.length_cons]

end Store

namespace Snapshot

/-- What is read from a snapshot, and what is left of it once that was saved and read again. -/
structure Normalizes
    (snapshot : Snapshot)
    (database normal : Database) :
    Prop where
  sameContent :
    database.SameContent normal
  symbols :
    ∀ kind,
      normal.symbols kind =
        (snapshot.records.filter fun entry => entry.tag = kind.tag).map
          SymbolRecord.symbol
  names :
    ∀ name,
      name ∈ normal.names.names ↔
        name ∈ snapshot.names ∧ name ≠ Name.absent ∧ name.hash ∈ database.references
  namesNodup :
    normal.names.names.Nodup
  source :
    normal.source = snapshot.source
  hasBaseTypes :
    normal.hasBaseTypes = snapshot.hasBaseTypes

variable {snapshot : Snapshot} {database : Database}

/-- Saving keeps just those of the names read that are referred to. -/
theorem normalizes_trimmed
    (restored : snapshot.restore = .ok database) :
    snapshot.Normalizes database database.trimmed := by
  have wellFormed : database.WellFormed :=
    .restore restored
  obtain ⟨consistent, described⟩ := restore_eq_ok_iff.mp restored
  refine
    ⟨wellFormed.sameContent_trimmed, ?symbols, ?names, ?namesNodup, ?source, ?hasBaseTypes⟩
  case symbols =>
    intro kind
    rw [wellFormed.symbols_trimmed, described, consistent.symbols_described]
  case names =>
    intro name
    have listed :
        name ∈ database.names.names ↔ name ∈ snapshot.names ∧ name ≠ Name.absent := by
      rw [described]
      exact NameTable.mem_ofListed
    exact wellFormed.mem_referencedNames.trans (by rw [listed, and_assoc])
  case namesNodup =>
    exact .of_map Name.hash wellFormed.referencedTable.hashesNodup
  case source =>
    exact congrArg Database.source described
  case hasBaseTypes =>
    exact congrArg Database.hasBaseTypes described

/-- What is saved after a snapshot was read lists no more names, and as many records. -/
theorem counts_of_restore
    (restored : snapshot.restore = .ok database) :
    database.snapshot.names.length ≤ snapshot.names.length ∧
      database.snapshot.records.length = snapshot.records.length := by
  have normalizes := normalizes_trimmed restored
  obtain ⟨-, described⟩ := restore_eq_ok_iff.mp restored
  constructor
  · have contained : database.trimmed.names.names ⊆ snapshot.names :=
      fun name kept => ((normalizes.names name).mp kept).1
    exact (List.subperm_of_subset normalizes.namesNodup contained).length_le
  · rw [described]
    show ((Store.ofSymbols (snapshot.records.map SymbolRecord.symbol)).all.map
        SymbolRecord.ofSymbol).length = _
    rw [List.length_map, Store.length_all_ofSymbols, List.length_map]

/-- A consistent snapshot that is packed is loaded as the database that it describes. -/
theorem Consistent.exists_pack
    (consistent : snapshot.Consistent)
    (fewNames : snapshot.names.length < UInt32.size)
    (fewRecords : snapshot.records.length < UInt32.size)
    (short : snapshot.compactDocument.length < UInt64.size) :
    ∃ bytes,
      Container.pack snapshot = .ok bytes ∧
        Database.ofContainer bytes = .ok snapshot.described := by
  obtain ⟨bytes, packed, -, unpacked⟩ := Container.unpack_pack snapshot fewNames fewRecords
  rw [if_pos short] at unpacked
  refine ⟨bytes, packed, ?_⟩
  rw [Database.ofContainer, unpacked]
  exact consistent.restore

/-- What is saved after a snapshot was read can be read again. -/
theorem restore_snapshot_of_restore
    (restored : snapshot.restore = .ok database) :
    database.snapshot.restore = .ok database.trimmed :=
  (Database.WellFormed.restore restored).restore_of_genuine
    (Database.genuine_of_restore restored)

end Snapshot

/--
What was read from a container, whoever wrote it, can be saved, and the container that is
saved then is read back to the same content and saved again byte for byte: only the absent
name, repeated names and names that nothing refers to are lost.  The same holds of
documents.  A container is a byte sequence in memory, so its length is below `UInt64.size`.
-/
theorem loading_normalizes :
    (∀ bytes database,
      Database.ofContainer bytes = .ok database →
        ∃ snapshot container,
          Container.unpack bytes = .ok snapshot ∧
            database.toContainer = .ok container ∧
            (container.length < UInt64.size →
              ∃ reloaded,
                Database.ofContainer container = .ok reloaded ∧
                  reloaded.toContainer = .ok container ∧
                  snapshot.Normalizes database reloaded)) ∧
      ∀ document database,
        Database.ofDocument document = .ok database →
          ∃ snapshot reloaded,
            Snapshot.ofDocument document = .ok snapshot ∧
              Database.ofDocument database.toDocument = .ok reloaded ∧
              reloaded.toDocument = database.toDocument ∧
              snapshot.Normalizes database reloaded := by
  refine ⟨?containers, ?documents⟩
  case containers =>
    intro bytes database loaded
    obtain ⟨snapshot, unpacked, restored⟩ := Database.restore_of_ofContainer loaded
    have normalizes := Snapshot.normalizes_trimmed restored
    -- The header of the container that was read counts no less than what is saved.
    obtain ⟨header, payload, -, -, nameCount, recordCount, -⟩ :=
      Container.unpack_eq_ok unpacked
    obtain ⟨noMoreNames, sameRecords⟩ := Snapshot.counts_of_restore restored
    have fewNames : database.snapshot.names.length < UInt32.size :=
      Nat.lt_of_le_of_lt noMoreNames (nameCount ▸ header.names.toNat_lt)
    have fewRecords : database.snapshot.records.length < UInt32.size := by
      rw [sameRecords, recordCount]
      exact header.symbols.toNat_lt
    obtain ⟨container, packed, framed, read⟩ :=
      database.ofContainer_toContainer fewNames fewRecords
    refine ⟨snapshot, container, unpacked, packed, ?_⟩
    intro addressable
    have fits : database.snapshot.compactDocument.length < UInt64.size := by
      omega
    refine ⟨database.trimmed, ?_, ?_, normalizes⟩
    · rw [read, if_pos fits, Snapshot.restore_snapshot_of_restore restored]
    · rw [Database.toContainer, ← normalizes.sameContent.snapshot]
      exact packed
  case documents =>
    intro document database loaded
    obtain ⟨snapshot, read, restored⟩ := Database.restore_of_ofDocument loaded
    have normalizes := Snapshot.normalizes_trimmed restored
    refine ⟨snapshot, database.trimmed, read, ?_, ?_, normalizes⟩
    · rw [database.ofDocument_toDocument, Snapshot.restore_snapshot_of_restore restored]
    · rw [Database.toDocument, ← normalizes.sameContent.snapshot]
      rfl

/-- The interleaved snapshot, behind a name that nothing refers to. -/
def strewnSnapshot : Snapshot :=
  { Snapshot.interleavedSnapshot with
    names :=
      ⟨NameHash.ofText "ghost", "ghost"⟩ :: Snapshot.interleavedSnapshot.names }

/-- The strewn snapshot is read from a container, and saved without the idle name. -/
theorem loading_normalizes_strewnSnapshot :
    ∃ bytes database container reloaded,
      Container.pack strewnSnapshot = .ok bytes ∧
        Database.ofContainer bytes = .ok database ∧
        database.toContainer = .ok container ∧
        Database.ofContainer container = .ok reloaded ∧
        reloaded.toContainer = .ok container ∧
        ⟨NameHash.ofText "ghost", "ghost"⟩ ∈ database.names.names ∧
        ⟨NameHash.ofText "ghost", "ghost"⟩ ∉ reloaded.names.names := by
  have consistent : strewnSnapshot.Consistent := by
    decide
  have short : strewnSnapshot.compactDocument.length < UInt64.size := by
    decide +kernel
  obtain ⟨bytes, packed, loaded⟩ :=
    consistent.exists_pack (by decide) (by decide) short
  obtain ⟨snapshot, container, -, saved, reads⟩ := loading_normalizes.1 bytes _ loaded
  have addressable : container.length < UInt64.size := by
    rw [(Database.ofContainer_of_toContainer saved).1]
    have small : strewnSnapshot.described.snapshot.compactDocument.length < 1000 := by
      decide +kernel
    simp only [Container.headerLength, Container.trailerLength, UInt64.size]
    omega
  obtain ⟨reloaded, read, savedAgain, normalizes⟩ := reads addressable
  refine
    ⟨bytes, _, container, reloaded, packed, loaded, saved, read, savedAgain, by decide, ?_⟩
  intro kept
  obtain ⟨-, -, referenced⟩ := (normalizes.names _).mp kept
  exact absurd referenced (by decide)

end SymbolDatabase
