import SymbolDatabase.Snapshot

namespace SymbolDatabase

/-!
# Bindings of a name table

A table that was filled by interning, restoring and absorbing binds every hash at
most once, never binds the absent hash, and lists every text under its own hash.
This module shows that each way of extending a table keeps that shape, and says what
absorbing a list of names does to a table.
-/

namespace NameTable

/-- What holds of every table that names were bound in by their own hash. -/
structure WellFormed
    (table : NameTable) :
    Prop where
  hashesNodup :
    (table.names.map Name.hash).Nodup
  hashPresent :
    ∀ name ∈ table.names, name.hash ≠ NameHash.absent
  hashGenuine :
    ∀ name ∈ table.names, name.hash = NameHash.ofText name.text

/-- Nothing is bound to the hashes that no listed name has. -/
theorem find?_eq_none_iff
    {table : NameTable}
    {hash : NameHash} :
    table.find? hash = none ↔
      ∀ name ∈ table.names, name.hash ≠ hash := by
  simp [find?]

/-- Where hashes are unique, every listed name is found under its hash. -/
theorem find?_of_mem
    {table : NameTable}
    (hashesNodup : (table.names.map Name.hash).Nodup)
    {name : Name}
    (listed : name ∈ table.names) :
    table.find? name.hash = some name := by
  obtain ⟨names⟩ := table
  induction names with
  | nil =>
      simp at listed
  | cons first rest inductionHypothesis =>
      obtain ⟨firstFresh, restNodup⟩ :
          first.hash ∉ rest.map Name.hash ∧ (rest.map Name.hash).Nodup := by
        simpa using hashesNodup
      rcases List.mem_cons.mp listed with isFirst | inRest
      · subst isFirst
        simp [find?]
      · have apart : first.hash ≠ name.hash := by
          intro same
          exact firstFresh (List.mem_map.mpr ⟨name, inRest, same.symm⟩)
        have found := inductionHypothesis restNodup inRest
        simpa [find?, List.find?_cons, apart] using found

/-- Looking up in an extended table tries the old names first. -/
theorem find?_append
    (names added : List Name)
    (hash : NameHash) :
    find? ⟨names ++ added⟩ hash =
      (find? ⟨names⟩ hash).or (find? ⟨added⟩ hash) := by
  simp [find?]

/-- A hash that is bound to the very text stays bound as it is. -/
theorem bind_of_find?_eq_some
    {table : NameTable}
    {name : Name}
    (present : name.hash ≠ NameHash.absent)
    (found : table.find? name.hash = some name) :
    table.bind name.hash name.text = .ok (name, table) := by
  simp [bind, present, found]

/-- A hash that is not bound gets bound at the end of the table. -/
theorem bind_of_find?_eq_none
    {table : NameTable}
    {hash : NameHash}
    {text : String}
    (present : hash ≠ NameHash.absent)
    (missing : table.find? hash = none) :
    table.bind hash text =
      .ok (⟨hash, text⟩, ⟨table.names ++ [⟨hash, text⟩]⟩) := by
  simp [bind, present, missing]

/-- The absent hash is never bound. -/
theorem hash_ne_absent_of_bind
    {table extended : NameTable}
    {hash : NameHash}
    {text : String}
    {name : Name}
    (bound : table.bind hash text = .ok (name, extended)) :
    hash ≠ NameHash.absent := by
  intro isAbsent
  simp [bind, isAbsent] at bound

/-- A bound name is found under its hash. -/
theorem find?_of_bind
    {table extended : NameTable}
    {hash : NameHash}
    {text : String}
    {name : Name}
    (bound : table.bind hash text = .ok (name, extended)) :
    extended.find? hash = some ⟨hash, text⟩ := by
  have present : hash ≠ NameHash.absent :=
    hash_ne_absent_of_bind bound
  cases found : table.find? hash with
  | none =>
      rw [bind_of_find?_eq_none present found] at bound
      cases bound
      rw [find?_append, show find? ⟨table.names⟩ hash = none from found]
      simp [find?]
  | some existing =>
      have sameHash := hash_of_find? found
      by_cases sameText : existing.text = text
      · subst sameHash sameText
        rw [bind_of_find?_eq_some present found] at bound
        cases bound
        exact found
      · simp [bind, present, found, sameText] at bound

/-- The hash of a text that was interned is bound. -/
theorem contains_of_intern
    {table later : NameTable}
    {text : String}
    {name : Name}
    (isText : text ≠ "")
    (interned : table.intern text = .ok (name, later)) :
    name.hash = NameHash.ofText text ∧ later.contains (NameHash.ofText text) = true := by
  rw [intern, if_neg isText] at interned
  rw [contains, find?_of_bind interned, (bind_eq_ok interned).1]
  exact ⟨rfl, rfl⟩

/-- A hash that is bound in a table is bound where all its names are listed. -/
theorem contains_of_subset
    {table later : NameTable}
    (included : table.names ⊆ later.names)
    {hash : NameHash}
    (bound : table.contains hash = true) :
    later.contains hash = true := by
  obtain ⟨name, listed, isHash⟩ := List.find?_isSome.mp bound
  exact List.find?_isSome.mpr ⟨name, included listed, isHash⟩

/-- A hash that is bound stays bound to its name. -/
theorem find?_of_bind_of_find?
    {table extended : NameTable}
    {hash other : NameHash}
    {text : String}
    {name known : Name}
    (bound : table.bind hash text = .ok (name, extended))
    (found : table.find? other = some known) :
    extended.find? other = some known := by
  obtain ⟨-, namesShape⟩ := bind_eq_ok bound
  obtain ⟨extendedNames⟩ := extended
  simp only at namesShape
  subst namesShape
  split
  · exact found
  · rw [find?_append, show find? ⟨table.names⟩ other = some known from found]
    rfl

/-- Absorbing a list binds its first name and absorbs the others into the result. -/
theorem absorb_cons_eq_ok
    {table extended : NameTable}
    {name : Name}
    {rest : List Name}
    (absorbed : table.absorb (name :: rest) = (.ok (), extended)) :
    ∃ answer middle,
      table.bind name.hash name.text = .ok (answer, middle) ∧
        middle.absorb rest = (.ok (), extended) := by
  simp only [absorb] at absorbed
  cases bound : table.bind name.hash name.text with
  | error error =>
      simp [bound] at absorbed
  | ok result =>
      obtain ⟨answer, middle⟩ := result
      rw [bound] at absorbed
      exact ⟨answer, middle, rfl, absorbed⟩

/-- Absorbing names leaves bound hashes bound to their names. -/
theorem find?_of_absorb
    {table extended : NameTable}
    {names : List Name}
    (absorbed : table.absorb names = (.ok (), extended))
    {hash : NameHash}
    {known : Name}
    (found : table.find? hash = some known) :
    extended.find? hash = some known := by
  induction names generalizing table with
  | nil =>
      obtain rfl : table = extended := by
        simpa [absorb] using absorbed
      exact found
  | cons name rest inductionHypothesis =>
      obtain ⟨answer, middle, bound, later⟩ := absorb_cons_eq_ok absorbed
      exact inductionHypothesis later (find?_of_bind_of_find? bound found)

/-- Every absorbed name is bound to its hash. -/
theorem find?_of_mem_absorb
    {table extended : NameTable}
    {names : List Name}
    (absorbed : table.absorb names = (.ok (), extended))
    {name : Name}
    (member : name ∈ names) :
    extended.find? name.hash = some name := by
  induction names generalizing table with
  | nil =>
      cases member
  | cons first rest inductionHypothesis =>
      obtain ⟨answer, middle, bound, later⟩ := absorb_cons_eq_ok absorbed
      rcases List.mem_cons.mp member with rfl | inRest
      · exact find?_of_absorb later (find?_of_bind bound)
      · exact inductionHypothesis later inRest

/-- Every absorbed name is listed. -/
theorem subset_of_absorb
    {table extended : NameTable}
    {names : List Name}
    (absorbed : table.absorb names = (.ok (), extended)) :
    names ⊆ extended.names :=
  fun _ member => mem_of_find? (find?_of_mem_absorb absorbed member)

namespace WellFormed

/-- The table without names is well formed. -/
theorem empty :
    NameTable.empty.WellFormed where
  hashesNodup := by
    simp [NameTable.empty]
  hashPresent := by
    simp [NameTable.empty]
  hashGenuine := by
    simp [NameTable.empty]

/-- The absent hash is not bound in a well-formed table. -/
theorem find?_absent
    {table : NameTable}
    (wellFormed : table.WellFormed) :
    table.find? NameHash.absent = none :=
  find?_eq_none_iff.mpr wellFormed.hashPresent

/-- The absent hash stands for the absent name. -/
theorem resolve_absent
    {table : NameTable}
    (wellFormed : table.WellFormed) :
    table.resolve NameHash.absent = Name.absent := by
  rw [resolve, wellFormed.find?_absent, Option.getD_none]

/-- A name with its own hash may be listed behind the names of other hashes. -/
theorem append
    {table : NameTable}
    (wellFormed : table.WellFormed)
    {added : Name}
    (present : added.hash ≠ NameHash.absent)
    (genuine : added.hash = NameHash.ofText added.text)
    (missing : table.find? added.hash = none) :
    WellFormed ⟨table.names ++ [added]⟩ := by
  have fresh := find?_eq_none_iff.mp missing
  constructor
  · simp only [List.map_append, List.map_cons, List.map_nil]
    rw [List.nodup_append]
    refine ⟨wellFormed.hashesNodup, by simp, ?_⟩
    intro first firstMember second secondMember
    obtain ⟨listed, listedMember, rfl⟩ := List.mem_map.mp firstMember
    obtain rfl : second = added.hash := by
      simpa using secondMember
    exact fresh listed listedMember
  · intro listed listedMember
    rcases List.mem_append.mp listedMember with old | new
    · exact wellFormed.hashPresent listed old
    · rw [List.mem_singleton.mp new]
      exact present
  · intro listed listedMember
    rcases List.mem_append.mp listedMember with old | new
    · exact wellFormed.hashGenuine listed old
    · rw [List.mem_singleton.mp new]
      exact genuine

/-- Binding a text to its own hash keeps a table well formed. -/
theorem bind
    {table extended : NameTable}
    (wellFormed : table.WellFormed)
    {hash : NameHash}
    {text : String}
    (genuine : hash = NameHash.ofText text)
    {name : Name}
    (bound : table.bind hash text = .ok (name, extended)) :
    extended.WellFormed := by
  have present : hash ≠ NameHash.absent :=
    hash_ne_absent_of_bind bound
  obtain ⟨-, namesShape⟩ := bind_eq_ok bound
  obtain ⟨extendedNames⟩ := extended
  by_cases known : table.contains hash = true
  · have sameNames : extendedNames = table.names := by
      simpa [known] using namesShape
    subst sameNames
    exact wellFormed
  · have appended : extendedNames = table.names ++ [⟨hash, text⟩] := by
      simpa [known] using namesShape
    have missing : table.find? hash = none := by
      simpa [contains] using known
    subst appended
    exact wellFormed.append present genuine missing

/-- Interning a text keeps a table well formed. -/
theorem intern
    {table extended : NameTable}
    (wellFormed : table.WellFormed)
    {text : String}
    {name : Name}
    (interned : table.intern text = .ok (name, extended)) :
    extended.WellFormed := by
  by_cases isEmpty : text = ""
  · have unchanged : table = extended := by
      simp only [NameTable.intern, isEmpty, ↓reduceIte, Except.ok.injEq,
        Prod.mk.injEq] at interned
      exact interned.2
    exact unchanged ▸ wellFormed
  · simp only [NameTable.intern, isEmpty, ↓reduceIte] at interned
    exact wellFormed.bind rfl interned

/-- Interning a text that may be missing keeps a table well formed. -/
theorem internOptional
    {table extended : NameTable}
    (wellFormed : table.WellFormed)
    {text : Option String}
    {name : Name}
    (interned : table.internOptional text = .ok (name, extended)) :
    extended.WellFormed := by
  cases text with
  | none =>
      simp only [NameTable.internOptional, Except.ok.injEq,
        Prod.mk.injEq] at interned
      exact interned.2 ▸ wellFormed
  | some text =>
      exact wellFormed.intern interned

/-- Restoring a stored name keeps a table well formed. -/
theorem restore
    {table extended : NameTable}
    (wellFormed : table.WellFormed)
    {stored name : Name}
    (restored : table.restore stored = .ok (name, extended)) :
    extended.WellFormed := by
  unfold NameTable.restore at restored
  split at restored
  · cases restored
    exact wellFormed
  · simp only at restored
    split at restored
    · exact wellFormed.bind rfl restored
    · cases restored

/-- Absorbing names with their own hashes keeps a table well formed, even on failure. -/
theorem absorb
    {table : NameTable}
    (wellFormed : table.WellFormed)
    {names : List Name}
    (genuine : ∀ name ∈ names, name.hash = NameHash.ofText name.text) :
    (table.absorb names).2.WellFormed := by
  induction names generalizing table with
  | nil =>
      exact wellFormed
  | cons name rest inductionHypothesis =>
      have nameGenuine := genuine name (by simp)
      have restGenuine :
          ∀ later ∈ rest, later.hash = NameHash.ofText later.text :=
        fun later member => genuine later (by simp [member])
      simp only [NameTable.absorb]
      cases bound : table.bind name.hash name.text with
      | error error =>
          exact wellFormed
      | ok result =>
          obtain ⟨answer, extended⟩ := result
          exact inductionHypothesis (wellFormed.bind nameGenuine bound) restGenuine

end WellFormed

/-- Absorbing two lists of names is absorbing one after the other. -/
theorem absorb_append
    (table : NameTable)
    (names later : List Name) :
    table.absorb (names ++ later) =
      match table.absorb names with
      | (.ok (), extended) =>
          extended.absorb later
      | (.error error, extended) =>
          (.error error, extended) := by
  induction names generalizing table with
  | nil =>
      rfl
  | cons name rest inductionHypothesis =>
      simp only [List.cons_append, absorb]
      cases bound : table.bind name.hash name.text with
      | error error =>
          rfl
      | ok result =>
          exact inductionHypothesis result.2

/-- Names whose hashes are new to a table, and to one another, are listed behind it. -/
theorem absorb_of_fresh
    (table : NameTable)
    (added : List Name)
    (hashesNodup : ((table.names ++ added).map Name.hash).Nodup)
    (present : ∀ name ∈ added, name.hash ≠ NameHash.absent) :
    table.absorb added = (.ok (), ⟨table.names ++ added⟩) := by
  induction added generalizing table with
  | nil =>
      simp [absorb]
  | cons name rest inductionHypothesis =>
      have missing : table.find? name.hash = none := by
        rw [find?_eq_none_iff]
        intro listed listedMember same
        simp only [List.map_append, List.nodup_append] at hashesNodup
        exact hashesNodup.2.2 listed.hash
          (List.mem_map_of_mem listedMember) name.hash (by simp) same
      have shifted :
          (((table.names ++ [name]) ++ rest).map Name.hash).Nodup := by
        simpa using hashesNodup
      have later :=
        inductionHypothesis ⟨table.names ++ [name]⟩ shifted
          (fun later member => present later (by simp [member]))
      simp only [absorb, bind_of_find?_eq_none (present name (by simp)) missing]
      simpa using later

/-- A well-formed table is what absorbing its own names makes of the empty table. -/
theorem absorb_names_self
    {table : NameTable}
    (wellFormed : table.WellFormed) :
    NameTable.empty.absorb table.names = (.ok (), table) := by
  have absorbed :=
    absorb_of_fresh NameTable.empty table.names
      (by simpa [NameTable.empty] using wellFormed.hashesNodup)
      wellFormed.hashPresent
  simpa [NameTable.empty] using absorbed

/-- Absorbing names that a well-formed table lists already leaves it as it is. -/
theorem absorb_of_subset
    {table : NameTable}
    (wellFormed : table.WellFormed)
    {names : List Name}
    (listed : names ⊆ table.names) :
    table.absorb names = (.ok (), table) := by
  induction names with
  | nil =>
      rfl
  | cons name rest inductionHypothesis =>
      obtain ⟨nameListed, restListed⟩ := List.cons_subset.mp listed
      have found := find?_of_mem wellFormed.hashesNodup nameListed
      have bound := bind_of_find?_eq_some (wellFormed.hashPresent name nameListed) found
      simp only [absorb, bound]
      exact inductionHypothesis restListed

end NameTable

end SymbolDatabase
