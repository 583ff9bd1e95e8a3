import Mathlib.Data.List.Induction
import SymbolDatabase.Proofs.Names.Union
import SymbolDatabase.Proofs.Restore

namespace SymbolDatabase

/-!
# Names that a snapshot may list

A snapshot may list its names in any order, list a name again and list the absent name.
It may neither list a text under a hash that is not its own nor two texts under one hash;
the first name that does is the one that is reported.
-/

namespace Name

/-- The absent name, or a text under its own hash. -/
def IsSound
    (name : Name) :
    Prop :=
  name = absent ∨
    name.hash ≠ NameHash.absent ∧ name.hash = NameHash.ofText name.text

instance (name : Name) : Decidable name.IsSound :=
  inferInstanceAs (Decidable (_ ∨ _))

/-- What is wrong with a name that is listed behind others. -/
inductive Offends
    (earlier : List Name)
    (name : Name) :
    Error → Prop
  /-- The hash is not that of the text. -/
  | mismatch
      (notAbsent : name ≠ absent)
      (forged : NameHash.ofText name.text ≠ name.hash) :
      Offends earlier name
        (.nameMismatch name.text name.hash (NameHash.ofText name.text))
  /-- The text has the hash that is reserved for the absent name. -/
  | reserved
      (notAbsent : name ≠ absent)
      (genuine : NameHash.ofText name.text = name.hash)
      (isReserved : name.hash = NameHash.absent) :
      Offends earlier name (.nameCollision name.hash "" name.text)
  /-- The text has the hash of another text. -/
  | collision
      (existing : Name)
      (listed : existing ∈ earlier)
      (present : name.hash ≠ NameHash.absent)
      (genuine : NameHash.ofText name.text = name.hash)
      (sameHash : existing.hash = name.hash)
      (otherText : existing.text ≠ name.text) :
      Offends earlier name (.nameCollision name.hash existing.text name.text)

end Name

namespace NameTable

/-- Names that are sound, and no two of which list two texts under one hash. -/
structure Listable
    (names : List Name) :
    Prop where
  sound :
    ∀ name ∈ names, name.IsSound
  oneText :
    ∀ first ∈ names, ∀ second ∈ names,
      first.hash = second.hash → first.text = second.text

instance (names : List Name) : Decidable (Listable names) :=
  decidable_of_iff
    ((∀ name ∈ names, name.IsSound) ∧
      ∀ first ∈ names, ∀ second ∈ names,
        first.hash = second.hash → first.text = second.text)
    ⟨fun both => ⟨both.1, both.2⟩, fun listable => ⟨listable.sound, listable.oneText⟩⟩

/-- The table of listed names: the absent name left out, the others at their first place. -/
def ofListed
    (names : List Name) :
    NameTable :=
  ⟨(names.filter fun name => name ≠ Name.absent).eraseDups⟩

theorem mem_ofListed
    {names : List Name}
    {name : Name} :
    name ∈ (ofListed names).names ↔ name ∈ names ∧ name ≠ Name.absent := by
  simp [ofListed]

namespace Listable

variable {names : List Name} {name : Name}

/-- A name may be listed behind others that list no other text under its hash. -/
theorem concat
    (listable : Listable names)
    (sound : name.IsSound)
    (sameText : ∀ existing ∈ names, existing.hash = name.hash → existing.text = name.text) :
    Listable (names ++ [name]) where
  sound other member := by
    rcases List.mem_append.mp member with old | new
    · exact listable.sound other old
    · rw [List.mem_singleton.mp new]
      exact sound
  oneText first firstMember second secondMember sameHash := by
    rcases List.mem_append.mp firstMember with firstOld | firstNew <;>
      rcases List.mem_append.mp secondMember with secondOld | secondNew
    · exact listable.oneText first firstOld second secondOld sameHash
    · rw [List.mem_singleton.mp secondNew] at sameHash ⊢
      exact sameText first firstOld sameHash
    · rw [List.mem_singleton.mp firstNew] at sameHash ⊢
      exact (sameText second secondOld sameHash.symm).symm
    · rw [List.mem_singleton.mp firstNew, List.mem_singleton.mp secondNew]

/-- Behind names that may be listed, a name may be listed or offends in some way. -/
theorem concat_or_offends
    (listable : Listable names)
    (name : Name) :
    Listable (names ++ [name]) ∨ ∃ error, name.Offends names error := by
  by_cases isAbsent : name = Name.absent
  · left
    refine listable.concat (.inl isAbsent) ?_
    intro existing member sameHash
    rcases listable.sound existing member with existingAbsent | ⟨present, -⟩
    · rw [existingAbsent, isAbsent]
    · exact (present (sameHash.trans (congrArg Name.hash isAbsent))).elim
  · by_cases genuine : NameHash.ofText name.text = name.hash
    · by_cases isReserved : name.hash = NameHash.absent
      · exact .inr ⟨_, .reserved isAbsent genuine isReserved⟩
      · by_cases collides :
          ∃ existing ∈ names, existing.hash = name.hash ∧ existing.text ≠ name.text
        · obtain ⟨existing, listed, sameHash, otherText⟩ := collides
          exact .inr
            ⟨_, .collision existing listed isReserved genuine sameHash otherText⟩
        · refine .inl (listable.concat (.inr ⟨isReserved, genuine.symm⟩) ?_)
          intro existing listed sameHash
          by_contra otherText
          exact collides ⟨existing, listed, sameHash, otherText⟩
    · exact .inr ⟨_, .mismatch isAbsent genuine⟩

/-- Among names that may be listed, all but the absent name have hashes of their own. -/
theorem present_and_genuine
    (listable : Listable names)
    (member : name ∈ names.filter fun name => name ≠ Name.absent) :
    name.hash ≠ NameHash.absent ∧ name.hash = NameHash.ofText name.text := by
  obtain ⟨listed, notAbsent⟩ := List.mem_filter.mp member
  exact (listable.sound name listed).resolve_left (of_decide_eq_true notAbsent)

/-- The names that may be listed can be united, once the absent name is left out. -/
theorem unitable
    (listable : Listable names) :
    Unitable (names.filter fun name => name ≠ Name.absent) where
  present _ member :=
    (listable.present_and_genuine member).1
  consistent first firstMember second secondMember sameHash := by
    have sameText :=
      listable.oneText first (List.mem_filter.mp firstMember).1 second
        (List.mem_filter.mp secondMember).1 sameHash
    exact congrArg₂ Name.mk sameHash sameText

theorem unitable_ofListed
    (listable : Listable names) :
    Unitable (ofListed names).names :=
  listable.unitable.of_subset fun _ member => List.mem_eraseDups.mp member

/-- A hash resolves among all listed names as it does once they are restored. -/
theorem resolve_ofListed
    (listable : Listable names)
    (hash : NameHash) :
    (ofListed names).resolve hash = resolve ⟨names⟩ hash := by
  have unitable := listable.unitable_ofListed
  cases found : find? ⟨names⟩ hash with
  | none =>
      have missing : (ofListed names).find? hash = none := by
        rw [find?_eq_none_iff] at found ⊢
        exact fun name member => found name (mem_ofListed.mp member).1
      rw [resolve, resolve, found, missing]
  | some name =>
      have sameHash := hash_of_find? found
      by_cases isAbsent : name = Name.absent
      · -- The absent name is not restored, and the absent hash leads to it all the same.
        have missing : (ofListed names).find? hash = none := by
          rw [find?_eq_none_iff, ← sameHash, isAbsent]
          exact unitable.present
        rw [resolve, resolve, found, missing, isAbsent]
        rfl
      · have restored : (ofListed names).find? hash = some name :=
          unitable.find?_eq_some_iff.mpr
            ⟨mem_ofListed.mpr ⟨mem_of_find? found, isAbsent⟩, sameHash⟩
        rw [resolve, resolve, found, restored]

/-- A name that offends is refused for what is wrong with it. -/
theorem restore_of_offends
    {error : Error}
    (listable : Listable names)
    (offends : name.Offends names error) :
    (ofListed names).restore name = .error error := by
  cases offends with
  | mismatch notAbsent forged =>
      rw [restore, if_neg notAbsent]
      exact if_neg forged
  | reserved notAbsent genuine isReserved =>
      rw [restore, if_neg notAbsent]
      simp only [genuine, ↓reduceIte]
      exact if_pos isReserved
  | collision existing listed present genuine sameHash otherText =>
      have notAbsent : name ≠ Name.absent := by
        rintro rfl
        exact present rfl
      have existingPresent : existing ≠ Name.absent := by
        rintro rfl
        exact present sameHash.symm
      have found : (ofListed names).find? name.hash = some existing :=
        listable.unitable_ofListed.find?_eq_some_iff.mpr
          ⟨mem_ofListed.mpr ⟨listed, existingPresent⟩, sameHash⟩
      rw [restore, if_neg notAbsent]
      simp only [genuine, ↓reduceIte]
      rw [bind, if_neg present, found]
      exact if_neg otherText

end Listable

end NameTable

namespace Snapshot

open NameTable

/-- Restoring more names goes on with the table that the first ones led to. -/
theorem restoreNames_append
    (table : NameTable)
    (names others : List Name) :
    restoreNames table (names ++ others) =
      (restoreNames table names).bind fun extended => restoreNames extended others := by
  induction names generalizing table with
  | nil =>
      rfl
  | cons name rest inductionHypothesis =>
      simp only [List.cons_append, restoreNames]
      cases table.restore name with
      | error error =>
          rfl
      | ok result =>
          exact inductionHypothesis result.2

/-- The absent name may be left out of what is restored. -/
theorem restoreNames_filter
    (table : NameTable)
    (names : List Name) :
    restoreNames table (names.filter fun name => name ≠ Name.absent) =
      restoreNames table names := by
  induction names generalizing table with
  | nil =>
      rfl
  | cons name rest inductionHypothesis =>
      by_cases isAbsent : name = Name.absent
      · subst isAbsent
        rw [List.filter_cons_of_neg (by simp), inductionHypothesis, restoreNames,
          NameTable.restore, if_pos rfl]
      · rw [List.filter_cons_of_pos (by simpa using isAbsent)]
        simp only [restoreNames]
        cases table.restore name with
        | error error =>
            rfl
        | ok result =>
            exact inductionHypothesis result.2

/-- Names that may be listed are restored as a table of these names. -/
theorem restoreNames_of_listable
    {names : List Name}
    (listable : Listable names) :
    restoreNames NameTable.empty names = .ok (ofListed names) := by
  rw [← restoreNames_filter]
  exact
    restoreNames_of_absorb (fun _ member => (listable.present_and_genuine member).2)
      (absorb_eraseDups [] listable.unitable)

/-- The first name that offends is what restoring fails with. -/
theorem restoreNames_of_offends
    {front rest : List Name}
    {name : Name}
    {error : Error}
    (listable : Listable front)
    (offends : name.Offends front error) :
    restoreNames NameTable.empty (front ++ name :: rest) = .error error := by
  rw [restoreNames_append, restoreNames_of_listable listable]
  simp only [Except.bind, restoreNames, listable.restore_of_offends offends]

/-- Names may be listed, or there is a first one that offends. -/
theorem listable_or_offends
    (names : List Name) :
    Listable names ∨
      ∃ front name rest error,
        names = front ++ name :: rest ∧ Listable front ∧ name.Offends front error := by
  induction names using List.reverseRecOn with
  | nil =>
      exact .inl ⟨by simp, by simp⟩
  | append_singleton front name inductionHypothesis =>
      rcases inductionHypothesis with
        listable | ⟨front, offender, rest, error, rfl, listable, offends⟩
      · rcases listable.concat_or_offends name with longer | ⟨error, offends⟩
        · exact .inl longer
        · exact .inr ⟨front, name, [], error, rfl, listable, offends⟩
      · refine .inr ⟨front, offender, rest ++ [name], error, ?_, listable, offends⟩
        simp

end Snapshot

end SymbolDatabase
