import SymbolDatabase.Proofs.Names.Listed

namespace SymbolDatabase

/-!
# Consistent snapshots

A snapshot is all that is known of a file that somebody else may have written.  It is
restored exactly if its parts agree with one another, and otherwise refused for the first
part that does not.  Identifiers are compared with what all listed names determine, those
behind the symbols included.
-/

/-- The kind that a tag leads to has that tag. -/
theorem Kind.tag_of_ofTag?
    {tag : UInt16}
    {kind : Kind}
    (known : ofTag? tag = some kind) :
    kind.tag = tag := by
  simpa [ofTag?] using List.find?_some known

namespace SymbolRecord

/-- Tag, identifier, body and names say the same of a symbol. -/
structure Agrees
    (entry : SymbolRecord)
    (names : NameTable) :
    Prop where
  kind :
    entry.tag = entry.body.kind.tag
  identifier :
    entry.identifier = entry.body.signature?.map Signature.identifier
  genuine :
    ∀ signature,
      entry.body.signature? = some signature →
        signature.identifier =
          Signature.identify names signature.result signature.parameters

instance
    (entry : SymbolRecord)
    (names : NameTable) :
    Decidable (entry.Agrees names) :=
  decidable_of_iff
    (entry.tag = entry.body.kind.tag ∧
      entry.identifier = entry.body.signature?.map Signature.identifier ∧
      entry.symbol.isGenuine names = true)
    ⟨fun all => ⟨all.1, all.2.1, Symbol.isGenuine_iff.mp all.2.2⟩,
      fun agrees =>
        ⟨agrees.kind, agrees.identifier, Symbol.isGenuine_iff.mpr agrees.genuine⟩⟩

/-- What is wrong with a record. -/
inductive Offends
    (entry : SymbolRecord)
    (names : NameTable) :
    Error → Prop
  /-- The tag belongs to no kind. -/
  | unknownKind
      (unknown : ∀ kind : Kind, kind.tag ≠ entry.tag) :
      Offends entry names (.unknownKind entry.tag)
  /-- The tag belongs to a kind, and the rest of the record contradicts it or itself. -/
  | corrupt
      (kind : Kind)
      (known : kind.tag = entry.tag)
      (disagrees : ¬ entry.Agrees names) :
      Offends entry names .corrupt

variable {entry : SymbolRecord} {names others : NameTable} {error : Error}

/-- Whether a record agrees depends on the names only through what hashes resolve to. -/
theorem Agrees.of_sameResolution
    (agrees : entry.Agrees names)
    (sameResolution : ∀ hash, names.resolve hash = others.resolve hash) :
    entry.Agrees others where
  kind :=
    agrees.kind
  identifier :=
    agrees.identifier
  genuine signature callable := by
    rw [agrees.genuine signature callable]
    exact Signature.identify_congr fun slot _ => sameResolution slot.type

theorem Offends.of_sameResolution
    (offends : entry.Offends names error)
    (sameResolution : ∀ hash, names.resolve hash = others.resolve hash) :
    entry.Offends others error := by
  cases offends with
  | unknownKind unknown =>
      exact .unknownKind unknown
  | corrupt kind known disagrees =>
      refine .corrupt kind known fun agrees => disagrees ?_
      exact agrees.of_sameResolution fun hash => (sameResolution hash).symm

/-- A record agrees or offends in some way. -/
theorem agrees_or_offends
    (entry : SymbolRecord)
    (names : NameTable) :
    entry.Agrees names ∨ ∃ error, entry.Offends names error := by
  by_cases agrees : entry.Agrees names
  · exact .inl agrees
  · right
    by_cases known : ∃ kind : Kind, kind.tag = entry.tag
    · obtain ⟨kind, sameTag⟩ := known
      exact ⟨_, .corrupt kind sameTag agrees⟩
    · exact ⟨_, .unknownKind fun kind sameTag => known ⟨kind, sameTag⟩⟩

/-- A record with a known tag agrees if its symbol has that kind and a genuine identifier. -/
theorem agrees_iff
    {kind : Kind}
    (known : Kind.ofTag? entry.tag = some kind) :
    entry.Agrees names ↔
      entry.symbol.kind = kind ∧ entry.symbol.identifier? = entry.identifier ∧
        entry.symbol.isGenuine names = true := by
  rw [Symbol.isGenuine_iff]
  constructor
  · intro agrees
    rw [agrees.kind, Kind.ofTag?_tag] at known
    exact ⟨Option.some.inj known, agrees.identifier.symm, agrees.genuine⟩
  · rintro ⟨sameKind, sameIdentifier, genuine⟩
    refine ⟨?_, sameIdentifier.symm, genuine⟩
    rw [← Kind.tag_of_ofTag? known, ← sameKind]
    rfl

/-- A record that agrees is restored to its symbol. -/
theorem Agrees.restore
    (agrees : entry.Agrees names) :
    entry.restore names = .ok entry.symbol := by
  have known : Kind.ofTag? entry.tag = some entry.body.kind := by
    rw [agrees.kind, Kind.ofTag?_tag]
  rw [entry.restore_of_known names known, if_pos ((agrees_iff known).mp agrees)]

/-- A record is refused for what is wrong with it. -/
theorem Offends.restore
    (offends : entry.Offends names error) :
    entry.restore names = .error error := by
  cases offends with
  | unknownKind unknown =>
      have untagged : Kind.ofTag? entry.tag = none := by
        rw [Option.eq_none_iff_forall_ne_some]
        exact fun kind known => unknown kind (Kind.tag_of_ofTag? known)
      rw [SymbolRecord.restore, untagged]
  | corrupt kind known disagrees =>
      have isKnown : Kind.ofTag? entry.tag = some kind := by
        rw [← known, kind.ofTag?_tag]
      rw [entry.restore_of_known names isKnown, if_neg (mt (agrees_iff isKnown).mpr disagrees)]

end SymbolRecord

namespace Snapshot

open NameTable

/-- The parts of a snapshot agree with one another. -/
structure Consistent
    (snapshot : Snapshot) :
    Prop where
  version :
    snapshot.version = currentVersion
  names :
    Listable snapshot.names
  /-- All listed names count, wherever they are listed. -/
  records :
    ∀ entry ∈ snapshot.records, entry.Agrees ⟨snapshot.names⟩

instance (snapshot : Snapshot) : Decidable snapshot.Consistent :=
  decidable_of_iff
    (snapshot.version = currentVersion ∧
      Listable snapshot.names ∧
      ∀ entry ∈ snapshot.records, entry.Agrees ⟨snapshot.names⟩)
    ⟨fun all => ⟨all.1, all.2.1, all.2.2⟩,
      fun consistent => ⟨consistent.version, consistent.names, consistent.records⟩⟩

/-- What is wrong with the first part of a snapshot that does not agree with the others. -/
inductive FirstFault
    (snapshot : Snapshot) :
    Error → Prop
  /-- The version is not the one that is read. -/
  | version
      (otherVersion : snapshot.version ≠ currentVersion) :
      FirstFault snapshot .badHeader
  /-- A name offends behind names that may be listed. -/
  | name
      (isCurrent : snapshot.version = currentVersion)
      (front : List Name)
      (name : Name)
      (rest : List Name)
      (shape : snapshot.names = front ++ name :: rest)
      (listable : Listable front)
      (error : Error)
      (offends : name.Offends front error) :
      FirstFault snapshot error
  /-- The names may be listed, and a record offends behind records that agree. -/
  | record
      (isCurrent : snapshot.version = currentVersion)
      (listable : Listable snapshot.names)
      (front : List SymbolRecord)
      (entry : SymbolRecord)
      (rest : List SymbolRecord)
      (shape : snapshot.records = front ++ entry :: rest)
      (agree : ∀ earlier ∈ front, earlier.Agrees ⟨snapshot.names⟩)
      (error : Error)
      (offends : entry.Offends ⟨snapshot.names⟩ error) :
      FirstFault snapshot error

/-- Records that agree are restored to their symbols. -/
theorem restoreSymbols_of_agree
    {names : NameTable}
    {records : List SymbolRecord}
    (agree : ∀ entry ∈ records, entry.Agrees names) :
    restoreSymbols names records = .ok (records.map SymbolRecord.symbol) := by
  induction records with
  | nil =>
      rfl
  | cons entry rest inductionHypothesis =>
      have later := inductionHypothesis fun entry member => agree entry (by simp [member])
      simp only [restoreSymbols, (agree entry (by simp)).restore, later, List.map_cons]

/-- The first record that offends is what restoring fails with. -/
theorem restoreSymbols_of_offends
    {names : NameTable}
    {front rest : List SymbolRecord}
    {entry : SymbolRecord}
    {error : Error}
    (agree : ∀ earlier ∈ front, earlier.Agrees names)
    (offends : entry.Offends names error) :
    restoreSymbols names (front ++ entry :: rest) = .error error := by
  induction front with
  | nil =>
      simp only [List.nil_append, restoreSymbols, offends.restore]
  | cons earlier front inductionHypothesis =>
      have later := inductionHypothesis fun entry member => agree entry (by simp [member])
      simp only [List.cons_append, restoreSymbols, (agree earlier (by simp)).restore, later]

/-- All records agree, or there is a first one that offends. -/
theorem agree_or_offends
    (names : NameTable)
    (records : List SymbolRecord) :
    (∀ entry ∈ records, entry.Agrees names) ∨
      ∃ front entry rest error,
        records = front ++ entry :: rest ∧
          (∀ earlier ∈ front, earlier.Agrees names) ∧
          entry.Offends names error := by
  induction records with
  | nil =>
      exact .inl (by simp)
  | cons first records inductionHypothesis =>
      rcases first.agrees_or_offends names with agrees | ⟨error, offends⟩
      · rcases inductionHypothesis with
          agree | ⟨front, entry, rest, error, rfl, agree, offends⟩
        · exact .inl (List.forall_mem_cons.mpr ⟨agrees, agree⟩)
        · exact .inr
            ⟨first :: front, entry, rest, error, rfl,
              List.forall_mem_cons.mpr ⟨agrees, agree⟩, offends⟩
      · exact .inr ⟨[], first, records, error, rfl, by simp, offends⟩

variable {snapshot : Snapshot} {error : Error}

/-- What a consistent snapshot describes. -/
def described
    (snapshot : Snapshot) :
    Database :=
  { names := ofListed snapshot.names
    store := Store.ofSymbols (snapshot.records.map SymbolRecord.symbol)
    source := snapshot.source
    hasBaseTypes := snapshot.hasBaseTypes }

/-- A consistent snapshot is restored. -/
theorem Consistent.restore
    (consistent : snapshot.Consistent) :
    snapshot.restore = .ok snapshot.described := by
  have agree : ∀ entry ∈ snapshot.records, entry.Agrees (ofListed snapshot.names) :=
    fun entry member =>
      (consistent.records entry member).of_sameResolution fun hash =>
        (consistent.names.resolve_ofListed hash).symm
  rw [Snapshot.restore, if_pos consistent.version, restoreNames_of_listable consistent.names]
  simp only [restoreSymbols_of_agree agree]
  rfl

/-- A snapshot is refused for its first fault. -/
theorem FirstFault.restore
    (fault : snapshot.FirstFault error) :
    snapshot.restore = .error error := by
  cases fault with
  | version otherVersion =>
      exact if_neg otherVersion
  | name isCurrent front name rest shape listable error offends =>
      rw [Snapshot.restore, if_pos isCurrent, shape, restoreNames_of_offends listable offends]
  | record isCurrent listable front entry rest shape agree error offends =>
      -- Identifiers are recomputed under the restored names, which resolve as the listed ones.
      have sameResolution : ∀ hash,
          resolve ⟨snapshot.names⟩ hash = (ofListed snapshot.names).resolve hash :=
        fun hash => (listable.resolve_ofListed hash).symm
      have refused :
          restoreSymbols (ofListed snapshot.names) (front ++ entry :: rest) =
            .error error :=
        restoreSymbols_of_offends
          (fun earlier member => (agree earlier member).of_sameResolution sameResolution)
          (offends.of_sameResolution sameResolution)
      rw [Snapshot.restore, if_pos isCurrent, restoreNames_of_listable listable, shape]
      simp only [refused]

/-- A snapshot is consistent or has a first fault. -/
theorem consistent_or_firstFault
    (snapshot : Snapshot) :
    snapshot.Consistent ∨ ∃ error, snapshot.FirstFault error := by
  by_cases isCurrent : snapshot.version = currentVersion
  · rcases listable_or_offends snapshot.names with
      listable | ⟨front, name, rest, error, shape, listable, offends⟩
    · rcases agree_or_offends ⟨snapshot.names⟩ snapshot.records with
        agree | ⟨front, entry, rest, error, shape, agree, offends⟩
      · exact .inl ⟨isCurrent, listable, agree⟩
      · exact .inr
          ⟨error, .record isCurrent listable front entry rest shape agree error offends⟩
    · exact .inr ⟨error, .name isCurrent front name rest shape listable error offends⟩
  · exact .inr ⟨_, .version isCurrent⟩

theorem restore_eq_ok_iff
    {database : Database} :
    snapshot.restore = .ok database ↔
      snapshot.Consistent ∧ database = snapshot.described := by
  constructor
  · intro restored
    rcases snapshot.consistent_or_firstFault with consistent | ⟨error, fault⟩
    · exact ⟨consistent, Except.ok.inj (restored.symm.trans consistent.restore)⟩
    · cases restored.symm.trans fault.restore
  · rintro ⟨consistent, rfl⟩
    exact consistent.restore

/-- Of the records that agree, those with the tag of a kind become its symbols, in order. -/
theorem Consistent.symbols_described
    (consistent : snapshot.Consistent)
    (kind : Kind) :
    snapshot.described.symbols kind =
      (snapshot.records.filter fun entry => entry.tag = kind.tag).map
        SymbolRecord.symbol := by
  rw [Database.symbols, described, Store.symbols_ofSymbols, List.filter_map]
  congr 1
  apply List.filter_congr
  intro entry member
  have agrees := consistent.records entry member
  rw [Function.comp_apply, decide_eq_decide, agrees.kind]
  refine ⟨congrArg Kind.tag, fun sameTag => ?_⟩
  rw [← Option.some.injEq, ← kind.ofTag?_tag, ← sameTag, Kind.ofTag?_tag]
  rfl

/--
A snapshot is restored exactly if it is consistent.  What it is restored to has the symbols
of each kind in the order of their records, repeated ones included, the names but the
absent one in the order in which they are listed first, and source and flag as they are.
Any other snapshot is refused for the first of its parts that does not agree: the version,
then a name, then a record.
-/
theorem restore_decides_consistency
    (snapshot : Snapshot) :
    ((∃ database, snapshot.restore = .ok database) ↔ snapshot.Consistent) ∧
      (∀ database,
        snapshot.restore = .ok database →
          (∀ kind,
            database.symbols kind =
              (snapshot.records.filter fun entry => entry.tag = kind.tag).map
                SymbolRecord.symbol) ∧
            database.names.names =
              (snapshot.names.filter fun name => name ≠ Name.absent).eraseDups ∧
            database.source = snapshot.source ∧
            database.hasBaseTypes = snapshot.hasBaseTypes) ∧
      ∀ error, snapshot.restore = .error error ↔ snapshot.FirstFault error := by
  refine ⟨?accepted, ?restored, ?refused⟩
  case accepted =>
    simp only [restore_eq_ok_iff, exists_and_left, exists_eq, and_true]
  case restored =>
    intro database restored
    obtain ⟨consistent, rfl⟩ := restore_eq_ok_iff.mp restored
    exact ⟨consistent.symbols_described, rfl, rfl, rfl⟩
  case refused =>
    intro error
    refine ⟨fun refused => ?_, FirstFault.restore⟩
    rcases snapshot.consistent_or_firstFault with consistent | ⟨other, fault⟩
    · cases refused.symm.trans consistent.restore
    · cases refused.symm.trans fault.restore
      exact fault

/-- The record of a function comes before that of its type, and a name is listed again. -/
def interleavedSnapshot : Snapshot :=
  let find : Name := ⟨NameHash.ofText "find", "find"⟩
  let int : Name := ⟨NameHash.ofText "int", "int"⟩
  let result : Slot :=
    { name := NameHash.absent
      type := int.hash
      passing := .value
      isConst := false
      offset := 0
      arrayLength := 0 }
  let signature := Signature.ofSlots ⟨[int]⟩ (some result) []
  { version := currentVersion
    source := none
    hasBaseTypes := false
    names := [find, Name.absent, find, int]
    records :=
      [ ⟨Kind.function.tag, find.hash, NameHash.absent, some signature.identifier,
          .function signature⟩,
        ⟨Kind.type.tag, int.hash, NameHash.absent, none, .type 4⟩ ] }

/-- The interleaved snapshot with a further name, whose hash is not that of its text. -/
def forgedSnapshot : Snapshot :=
  { interleavedSnapshot with
    names := interleavedSnapshot.names ++ [⟨NameHash.absent, "int"⟩] }

/-- The interleaved snapshot is restored, and refused with the forged name. -/
theorem restore_decides_consistency_interleavedSnapshot :
    (∃ database,
        interleavedSnapshot.restore = .ok database ∧
          database.symbols .type = [⟨NameHash.ofText "int", NameHash.absent, .type 4⟩] ∧
          database.names.names.map Name.text = ["find", "int"]) ∧
      forgedSnapshot.restore =
        .error (.nameMismatch "int" NameHash.absent (NameHash.ofText "int")) := by
  obtain ⟨accepted, restored, -⟩ := restore_decides_consistency interleavedSnapshot
  obtain ⟨database, success⟩ := accepted.mpr (by decide)
  obtain ⟨symbols, names, -, -⟩ := restored database success
  refine ⟨⟨database, success, ?_, ?_⟩, ?_⟩
  · rw [symbols]
    decide
  · rw [names]
    decide
  · have forged :
        Name.Offends interleavedSnapshot.names ⟨NameHash.absent, "int"⟩
          (.nameMismatch "int" NameHash.absent (NameHash.ofText "int")) :=
      .mismatch (by decide) (by decide)
    exact
      ((restore_decides_consistency _).2.2 _).mpr
        (.name rfl interleavedSnapshot.names _ [] rfl (by decide) _ forged)

end Snapshot

end SymbolDatabase
