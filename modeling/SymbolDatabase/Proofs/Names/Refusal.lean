import SymbolDatabase.Proofs.Names.Lifetime

namespace SymbolDatabase

/-!
# Where binding names stops

Names are bound one after another up to the first that is refused.  Those before it are
listed behind the names that were there, the new ones only, and the one that is refused
either has the reserved hash or the hash of another text.
-/

/-- The name of a text. -/
def Name.ofText
    (text : String) :
    Name :=
  ⟨NameHash.ofText text, text⟩

/-- The names of texts.  The empty text has none. -/
def Name.ofTexts
    (texts : List String) :
    List Name :=
  (texts.filter fun text => text ≠ "").map Name.ofText

theorem Name.ofTexts_append
    (texts others : List String) :
    Name.ofTexts (texts ++ others) = Name.ofTexts texts ++ Name.ofTexts others := by
  simp [Name.ofTexts]

theorem Name.genuine_of_mem_ofTexts
    {texts : List String}
    {name : Name}
    (member : name ∈ Name.ofTexts texts) :
    name.hash = NameHash.ofText name.text := by
  obtain ⟨text, -, rfl⟩ := List.mem_map.mp member
  rfl

namespace NameTable

variable {table extended : NameTable} {names : List Name} {error : Error}

/-- Those of some names that are not listed yet, each once. -/
def additions
    (table : NameTable)
    (names : List Name) :
    List Name :=
  (names.filter fun name => name ∉ table.names).eraseDups

/-- Interning a text binds its name, or nothing where the text is empty. -/
theorem absorb_ofTexts_singleton
    (table : NameTable)
    (text : String) :
    table.absorb (Name.ofTexts [text]) =
      match table.intern text with
      | .ok (_, extended) =>
          (.ok (), extended)
      | .error error =>
          (.error error, table) := by
  by_cases isEmpty : text = ""
  · simp [Name.ofTexts, isEmpty, intern, absorb]
  · have isListed : Name.ofTexts [text] = [Name.ofText text] := by
      simp [Name.ofTexts, isEmpty]
    rw [isListed, intern, if_neg isEmpty, absorb]
    cases bound : table.bind (NameHash.ofText text) text <;>
      simp [Name.ofText, absorb, bound]

/-- Names that were absorbed are listed behind the others, the new ones only. -/
theorem WellFormed.names_of_absorb
    (wellFormed : table.WellFormed)
    (absorbed : table.absorb names = (.ok (), extended)) :
    extended.names = table.names ++ table.additions names := by
  have distinct : table.names.eraseDups = table.names :=
    eraseDups_of_nodup (.of_map Name.hash wellFormed.hashesNodup)
  have whole : NameTable.empty.absorb (table.names ++ names) = (.ok (), extended) := by
    rw [absorb_append, absorb_names_self wellFormed]
    exact absorbed
  have listed := absorb_eraseDups table.names (unitable_of_absorb whole)
  rw [distinct, absorbed] at listed
  rw [(Prod.mk.inj listed).2, List.eraseDups_append, distinct, additions, List.removeAll]
  simp

/-- Absorbing stops at the first name that is refused, and keeps what was bound before. -/
theorem absorb_eq_error
    (refused : table.absorb names = (.error error, extended)) :
    ∃ front name rest,
      names = front ++ name :: rest ∧
        table.absorb front = (.ok (), extended) ∧
        extended.bind name.hash name.text = .error error := by
  induction names generalizing table with
  | nil =>
      simp [absorb] at refused
  | cons first rest inductionHypothesis =>
      simp only [absorb] at refused
      cases bound : table.bind first.hash first.text with
      | error found =>
          obtain ⟨rfl, rfl⟩ : found = error ∧ table = extended := by
            simpa [bound] using refused
          exact ⟨[], first, rest, rfl, rfl, bound⟩
      | ok result =>
          rw [bound] at refused
          obtain ⟨front, name, behind, rfl, frontAbsorbed, nameRefused⟩ :=
            inductionHypothesis refused
          refine ⟨first :: front, name, behind, rfl, ?_, nameRefused⟩
          simpa only [absorb, bound] using frontAbsorbed

/-- A name that is not reserved is refused for the other text that its hash is bound to. -/
theorem exists_of_bind_error
    {name : Name}
    (present : name.hash ≠ NameHash.absent)
    (refused : table.bind name.hash name.text = .error error) :
    ∃ existing,
      table.find? name.hash = some existing ∧
        existing.text ≠ name.text ∧
        error = .nameCollision name.hash existing.text name.text := by
  rw [NameTable.bind, if_neg present] at refused
  split at refused
  next existing found =>
    split at refused
    next =>
      cases refused
    next otherText =>
      cases refused
      exact ⟨existing, found, otherText, rfl⟩
  next =>
    cases refused

/-- A hash is refused if it is reserved or bound to another text, which is reported. -/
theorem WellFormed.refuses_of_bind_error
    (wellFormed : table.WellFormed)
    {name : Name}
    (genuine : name.hash = NameHash.ofText name.text)
    (refused : table.bind name.hash name.text = .error error) :
    table.Refuses name.text ∧
      error = .nameCollision name.hash (table.resolve name.hash).text name.text := by
  rw [Refuses, ← genuine]
  by_cases isAbsent : name.hash = NameHash.absent
  · rw [NameTable.bind, if_pos isAbsent] at refused
    cases refused
    rw [isAbsent, wellFormed.resolve_absent]
    exact ⟨.inl rfl, rfl⟩
  · obtain ⟨existing, found, otherText, reported⟩ := exists_of_bind_error isAbsent refused
    rw [resolve, found]
    exact ⟨.inr ⟨existing, mem_of_find? found, hash_of_find? found, otherText⟩, reported⟩

/--
Absorbing the names of a table into another one stops at the first name whose hash the
other table binds to a different text.
-/
theorem WellFormed.absorb_eq_error
    {other : NameTable}
    (wellFormed : table.WellFormed)
    (otherWellFormed : other.WellFormed)
    (refused : table.absorb other.names = (.error error, extended)) :
    ∃ front name rest existing,
      other.names = front ++ name :: rest ∧
        (∀ earlier ∈ front, ∀ held ∈ table.names,
          held.hash = earlier.hash → held.text = earlier.text) ∧
        (existing ∈ table.names ∧ existing.hash = name.hash ∧
          existing.text ≠ name.text) ∧
        error = .nameCollision name.hash existing.text name.text ∧
        extended.names =
          table.names ++ front.filter fun earlier => earlier ∉ table.names := by
  obtain ⟨front, name, rest, shape, frontAbsorbed, nameRefused⟩ :=
    NameTable.absorb_eq_error refused
  have listed : name ∈ other.names := by
    simp [shape]
  have frontListed : front ⊆ other.names := by
    rw [shape]
    exact List.subset_append_left front _
  obtain ⟨existing, found, otherText, reported⟩ :=
    exists_of_bind_error (otherWellFormed.hashPresent name listed) nameRefused
  have sameHash := hash_of_find? found
  refine ⟨front, name, rest, existing, shape, ?agrees, ⟨?held, sameHash, otherText⟩, reported,
    ?names⟩
  case agrees =>
    intro earlier member held heldListed sameHash
    have heldFound :=
      find?_of_absorb frontAbsorbed (find?_of_mem wellFormed.hashesNodup heldListed)
    rw [sameHash, find?_of_mem_absorb frontAbsorbed member] at heldFound
    rw [Option.some.inj heldFound]
  case held =>
    -- A table has no two names of one hash, so the text in the way was there before.
    rcases (mem_of_absorb frontAbsorbed existing).mp (mem_of_find? found) with inFront | held
    · have same :=
        otherWellFormed.unitable.consistent existing (frontListed inFront) name listed sameHash
      exact (otherText (congrArg Name.text same)).elim
    · exact held
  case names =>
    have distinct : (front.filter fun earlier => earlier ∉ table.names).Nodup := by
      have otherNodup : other.names.Nodup :=
        .of_map Name.hash otherWellFormed.hashesNodup
      rw [shape] at otherNodup
      exact (List.Nodup.of_append_left otherNodup).filter _
    rw [wellFormed.names_of_absorb frontAbsorbed, additions, eraseDups_of_nodup distinct]

end NameTable

end SymbolDatabase
