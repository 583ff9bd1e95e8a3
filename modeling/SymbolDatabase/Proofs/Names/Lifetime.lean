import SymbolDatabase.Proofs.Growth
import SymbolDatabase.Proofs.Names.Index
import SymbolDatabase.Proofs.Names.Union

namespace SymbolDatabase

/-!
# A hash names one text

Names come into a database by interning, by restoring a snapshot and by absorbing the
names of other databases, which nobody ever compared.  All three bind names by their own
hashes and refuse a hash that stands for another text, whatever texts share a hash.  So in
every database that a client can hold a hash names one text, and does so for good.
-/

namespace NameTable

/-- The hash of a text is reserved or bound to another text. -/
def Refuses
    (table : NameTable)
    (text : String) :
    Prop :=
  NameHash.ofText text = NameHash.absent ∨
    ∃ name ∈ table.names, name.hash = NameHash.ofText text ∧ name.text ≠ text

instance
    (table : NameTable)
    (text : String) :
    Decidable (table.Refuses text) :=
  inferInstanceAs (Decidable (_ ∨ _))

/-- List a name behind all others, unless it is listed. -/
def including
    (table : NameTable)
    (name : Name) :
    NameTable :=
  if name ∈ table.names then
    table
  else
    ⟨table.names ++ [name]⟩

theorem mem_names_including
    {table : NameTable}
    {name other : Name} :
    other ∈ (table.including name).names ↔ other ∈ table.names ∨ other = name := by
  unfold including
  split
  next listed =>
    constructor
    · exact .inl
    · rintro (member | rfl)
      · exact member
      · exact listed
  next =>
    simp

namespace WellFormed

variable {table : NameTable} {hash : NameHash} {name : Name} {text : String}

/-- A hash resolves to the listed name with that hash, or to the absent name. -/
theorem resolve_eq_iff
    (wellFormed : table.WellFormed) :
    table.resolve hash = name ↔
      (name ∈ table.names ∧ name.hash = hash) ∨
        (name = Name.absent ∧ ∀ listed ∈ table.names, listed.hash ≠ hash) := by
  rw [← wellFormed.unitable.find?_eq_some_iff, ← find?_eq_none_iff, resolve]
  cases table.find? hash with
  | none =>
      simp [eq_comm]
  | some found =>
      simp

/-- A text whose hash is taken is not bound, and the table stays as it is. -/
theorem bind_of_refuses
    (wellFormed : table.WellFormed)
    (refuses : table.Refuses text) :
    table.bind (NameHash.ofText text) text =
      .error
        (.nameCollision (NameHash.ofText text)
          (table.resolve (NameHash.ofText text)).text text) := by
  rw [NameTable.bind]
  rcases refuses with isAbsent | ⟨existing, listed, sameHash, otherText⟩
  · rw [if_pos isAbsent, isAbsent, wellFormed.resolve_absent]
    rfl
  · have present : NameHash.ofText text ≠ NameHash.absent :=
      sameHash ▸ wellFormed.hashPresent existing listed
    have found : table.find? (NameHash.ofText text) = some existing :=
      wellFormed.unitable.find?_eq_some_iff.mpr ⟨listed, sameHash⟩
    rw [if_neg present, resolve, found]
    exact if_neg otherText

/-- A text whose hash is not taken is bound as its name, which is listed then. -/
theorem bind_of_not_refuses
    (wellFormed : table.WellFormed)
    (accepts : ¬ table.Refuses text) :
    table.bind (NameHash.ofText text) text =
      .ok
        (⟨NameHash.ofText text, text⟩,
          table.including ⟨NameHash.ofText text, text⟩) := by
  obtain ⟨present, others⟩ := not_or.mp accepts
  rw [including]
  cases found : table.find? (NameHash.ofText text) with
  | none =>
      have fresh : ⟨NameHash.ofText text, text⟩ ∉ table.names :=
        fun listed => find?_eq_none_iff.mp found _ listed rfl
      rw [bind_of_find?_eq_none present found, if_neg fresh]
  | some existing =>
      obtain ⟨listed, sameHash⟩ := wellFormed.unitable.find?_eq_some_iff.mp found
      have sameText : existing.text = text := by
        by_contra otherText
        exact others ⟨existing, listed, sameHash, otherText⟩
      have isName : existing = ⟨NameHash.ofText text, text⟩ := by
        rw [← sameHash, ← sameText]
      rw [← isName, if_pos listed, ← sameHash, ← sameText]
      exact bind_of_find?_eq_some (sameHash ▸ present) (sameHash ▸ found)

/-- A text whose hash is taken is not interned, and the table stays as it is. -/
theorem intern_of_refuses
    (wellFormed : table.WellFormed)
    (isText : text ≠ "")
    (refuses : table.Refuses text) :
    table.intern text =
      .error
        (.nameCollision (NameHash.ofText text)
          (table.resolve (NameHash.ofText text)).text text) := by
  rw [NameTable.intern, if_neg isText]
  exact wellFormed.bind_of_refuses refuses

/-- A text whose hash is not taken is interned as its name, which is listed then. -/
theorem intern_of_not_refuses
    (wellFormed : table.WellFormed)
    (isText : text ≠ "")
    (accepts : ¬ table.Refuses text) :
    table.intern text =
      .ok
        (⟨NameHash.ofText text, text⟩,
          table.including ⟨NameHash.ofText text, text⟩) := by
  rw [NameTable.intern, if_neg isText]
  exact wellFormed.bind_of_not_refuses accepts

end WellFormed

end NameTable

/-- The names of every database that a client can hold were bound one after another. -/
theorem Database.Reachable.growsInto_names
    {database : Database}
    (reachable : database.Reachable) :
    NameTable.empty.GrowsInto database.names := by
  induction reachable with
  | empty =>
      exact .refl NameTable.empty
  | change change _ inductionHypothesis =>
      exact inductionHypothesis.trans (change.growsInto_names _)
  | @absorb accumulated input _ _ accumulatedHypothesis _ =>
      refine accumulatedHypothesis.trans ?_
      have united := NameTable.GrowsInto.absorb accumulated.names input.names.names
      unfold Edit.absorb
      rcases absorbed : accumulated.names.absorb input.names.names with
        ⟨result | result, names⟩ <;>
        rw [absorbed] at united <;>
        exact united
  | @merge inputs outcome _ merged _ =>
      have united :=
        NameTable.GrowsInto.absorb NameTable.empty
          (inputs.flatMap fun input => input.names.names)
      rw [Database.absorb_of_merge_ok merged] at united
      exact united
  | restore restored =>
      obtain ⟨symbols, namesRestored, -⟩ := Snapshot.restore_eq_ok restored
      exact Snapshot.growsInto_of_restoreNames namesRestored

namespace Edit

variable {database : Database} {text : String}

/-- Interning in a database is interning among its names. -/
theorem intern_of_eq_ok
    {name : Name}
    {names : NameTable}
    (interned : database.names.intern text = .ok (name, names)) :
    Edit.intern text database = (.ok name, { database with names := names }) := by
  simp only [Edit.intern, withNames, interned]

/-- A text that cannot be interned leaves the database as it is. -/
theorem intern_of_eq_error
    {error : Error}
    (refused : database.names.intern text = .error error) :
    Edit.intern text database = (.error error, database) := by
  simp only [Edit.intern, withNames, refused]

end Edit

/--
In every database that a client can hold, the listed names have hashes of their own, all
different and none of them reserved, and a hash resolves to the listed name or to the
absent one.  Interning a text answers its name and lists it at most once, or is refused
exactly if the hash of the text is taken, and leaves the database as it is then.  What is
bound stays bound through all further operations and through merges.  Kept with an index,
the names are looked up to the same effect.  Nothing is assumed of the hash function.
-/
theorem hash_names_one_text
    {database : Database}
    (reachable : database.Reachable) :
    ((database.names.names.map Name.hash).Nodup ∧
        ∀ name ∈ database.names.names,
          name.hash ≠ NameHash.absent ∧ name.hash = NameHash.ofText name.text) ∧
      (∀ hash name,
        database.names.resolve hash = name ↔
          (name ∈ database.names.names ∧ name.hash = hash) ∨
            (name = Name.absent ∧
              ∀ listed ∈ database.names.names, listed.hash ≠ hash)) ∧
      (∀ text,
        (text = "" →
          Edit.intern text database = (.ok Name.absent, database)) ∧
          (text ≠ "" →
            ¬ database.names.Refuses text →
              Edit.intern text database =
                (.ok ⟨NameHash.ofText text, text⟩,
                  { database with
                    names := database.names.including ⟨NameHash.ofText text, text⟩ })) ∧
          (text ≠ "" →
            database.names.Refuses text →
              Edit.intern text database =
                (.error
                    (.nameCollision (NameHash.ofText text)
                      (database.names.resolve (NameHash.ofText text)).text text),
                  database))) ∧
      (∀ operations : List Operation,
        (∀ operation ∈ operations, operation.Available) →
          ∀ name ∈ database.names.names,
            (Operation.run operations database).names.find? name.hash = some name) ∧
      (∀ inputs outcome,
        database ∈ inputs →
          Database.merge inputs = .ok outcome →
            ∀ name ∈ database.names.names,
              outcome.database.names.find? name.hash = some name) ∧
      ∃ bound indexed,
        database.names = NameTable.empty.bindEach bound ∧
          IndexedTable.empty.bindEach? bound = some indexed ∧
          indexed.names = database.names.names ∧
          ∀ hash, indexed.resolve? hash = some (database.names.resolve hash) := by
  have wellFormed : database.names.WellFormed :=
    reachable.wellFormed.names
  refine
    ⟨⟨wellFormed.hashesNodup, ?hashes⟩, fun _ _ => wellFormed.resolve_eq_iff, ?interning,
      ?operations, ?merges, ?index⟩
  case hashes =>
    intro name listed
    exact ⟨wellFormed.hashPresent name listed, wellFormed.hashGenuine name listed⟩
  case interning =>
    intro text
    refine ⟨?_, ?_, ?_⟩
    · intro isEmpty
      exact Edit.intern_of_eq_ok (if_pos isEmpty)
    · intro isText accepts
      exact Edit.intern_of_eq_ok (wellFormed.intern_of_not_refuses isText accepts)
    · intro isText refuses
      exact Edit.intern_of_eq_error (wellFormed.intern_of_refuses isText refuses)
  case operations =>
    intro operations available name listed
    have laterWellFormed :=
      (Operation.reachable_run reachable available).wellFormed.names
    have stillListed :=
      (Operation.growsInto_run reachable available).names.subset listed
    exact NameTable.find?_of_mem laterWellFormed.hashesNodup stillListed
  case merges =>
    intro inputs outcome member merged name listed
    exact
      NameTable.find?_of_mem_absorb (Database.absorb_of_merge_ok merged)
        (List.mem_flatMap.mpr ⟨database, member, listed⟩)
  case index =>
    obtain ⟨bound, shape⟩ := reachable.growsInto_names
    obtain ⟨indexed, answered, indexes⟩ := IndexedTable.Indexes.empty.bindEach bound
    rw [← shape] at indexes
    exact ⟨bound, indexed, shape, answered, indexes.names, indexes.resolve?_eq_some⟩

/-- A unit that names a type and has absorbed a unit that names another one. -/
def unitedTypes : Database :=
  (Operation.absorb ((Change.intern "float").apply Database.empty)).apply
    ((Change.intern "int").apply Database.empty)

/-- Both united types are named once, and stay named when further symbols are added. -/
theorem hash_names_one_text_unitedTypes :
    unitedTypes.names.names.map Name.text = ["int", "float"] ∧
      Edit.intern "float" unitedTypes =
        (.ok ⟨NameHash.ofText "float", "float"⟩, unitedTypes) ∧
      (Operation.run [.perform (.addType "double" 0 8)] unitedTypes).names.find?
          (NameHash.ofText "float") =
        some ⟨NameHash.ofText "float", "float"⟩ := by
  have reachable : unitedTypes.Reachable :=
    .absorb (.change _ .empty) (.change _ .empty)
  obtain ⟨-, -, interning, operations, -⟩ := hash_names_one_text reachable
  refine ⟨by decide, ?_, ?_⟩
  · have accepts : ¬ unitedTypes.names.Refuses "float" := by
      decide
    have listed :
        unitedTypes.names.including ⟨NameHash.ofText "float", "float"⟩ =
          unitedTypes.names := by
      decide
    rw [(interning "float").2.1 (by decide) accepts, listed]
  · refine operations _ ?_ ⟨NameHash.ofText "float", "float"⟩ (by decide)
    intro operation member
    obtain rfl := List.mem_singleton.mp member
    exact trivial

end SymbolDatabase
