import SymbolDatabase.Proofs.Names

namespace SymbolDatabase

/-!
# Growing name tables

Interning, restoring and absorbing change a table in one way only: they bind names one
after another.  So a table grows at its end, and what a hash is bound to stays bound, also
where a name is refused on the way.
-/

namespace NameTable

/-- Bind names one after another, and pass over the names that are refused. -/
def bindEach
    (table : NameTable) :
    List Name → NameTable
  | [] =>
      table
  | name :: rest =>
      match table.bind name.hash name.text with
      | .ok (_, extended) =>
          extended.bindEach rest
      | .error _ =>
          table.bindEach rest

/-- A table came to another one by binding names. -/
def GrowsInto
    (table later : NameTable) :
    Prop :=
  ∃ names, later = table.bindEach names

/-- Binding two lists of names is binding one after the other. -/
theorem bindEach_append
    (table : NameTable)
    (names others : List Name) :
    table.bindEach (names ++ others) = (table.bindEach names).bindEach others := by
  induction names generalizing table with
  | nil =>
      rfl
  | cons name rest inductionHypothesis =>
      simp only [List.cons_append, bindEach]
      cases table.bind name.hash name.text with
      | ok result =>
          exact inductionHypothesis result.2
      | error error =>
          exact inductionHypothesis table

/-- Binding adds names at the end only. -/
theorem names_prefix_of_bind
    {table extended : NameTable}
    {hash : NameHash}
    {text : String}
    {name : Name}
    (bound : table.bind hash text = .ok (name, extended)) :
    table.names <+: extended.names := by
  obtain ⟨-, namesShape⟩ := bind_eq_ok bound
  split at namesShape
  · exact ⟨[], by simp [namesShape]⟩
  · exact ⟨[⟨hash, text⟩], namesShape.symm⟩

namespace GrowsInto

variable {table middle later : NameTable}

theorem refl
    (table : NameTable) :
    table.GrowsInto table :=
  ⟨[], rfl⟩

theorem trans
    (first : table.GrowsInto middle)
    (second : middle.GrowsInto later) :
    table.GrowsInto later := by
  obtain ⟨names, rfl⟩ := first
  obtain ⟨others, rfl⟩ := second
  exact ⟨names ++ others, (bindEach_append table names others).symm⟩

/-- A table grows at its end. -/
theorem names_prefix
    (grows : table.GrowsInto later) :
    table.names <+: later.names := by
  obtain ⟨names, rfl⟩ := grows
  induction names generalizing table with
  | nil =>
      exact List.prefix_rfl
  | cons name rest inductionHypothesis =>
      simp only [bindEach]
      cases bound : table.bind name.hash name.text with
      | ok result =>
          exact (names_prefix_of_bind bound).trans inductionHypothesis
      | error error =>
          exact inductionHypothesis

/-- A table that grows keeps what it bound. -/
theorem find?_eq_some
    (grows : table.GrowsInto later)
    {hash : NameHash}
    {name : Name}
    (found : table.find? hash = some name) :
    later.find? hash = some name := by
  obtain ⟨added, shape⟩ := grows.names_prefix
  obtain ⟨names⟩ := later
  simp only at shape
  rw [← shape, find?_append,
    show find? ⟨table.names⟩ hash = some name from found]
  rfl

/-- Binding a name is one way to grow. -/
theorem of_bind
    {hash : NameHash}
    {text : String}
    {name : Name}
    (bound : table.bind hash text = .ok (name, later)) :
    table.GrowsInto later :=
  ⟨[⟨hash, text⟩], by simp [bindEach, bound]⟩

/-- Interning grows a table. -/
theorem of_intern
    {text : String}
    {name : Name}
    (interned : table.intern text = .ok (name, later)) :
    table.GrowsInto later := by
  unfold intern at interned
  split at interned
  · cases interned
    exact .refl table
  · exact .of_bind interned

/-- Restoring a stored name grows a table. -/
theorem of_restore
    {stored name : Name}
    (restored : table.restore stored = .ok (name, later)) :
    table.GrowsInto later := by
  unfold restore at restored
  split at restored
  · cases restored
    exact .refl table
  · simp only at restored
    split at restored
    · exact .of_bind restored
    · cases restored

/-- Absorbing names grows a table, up to the first name that is refused. -/
theorem absorb
    (table : NameTable)
    (names : List Name) :
    table.GrowsInto (table.absorb names).2 := by
  induction names generalizing table with
  | nil =>
      exact .refl table
  | cons name rest inductionHypothesis =>
      simp only [NameTable.absorb]
      cases bound : table.bind name.hash name.text with
      | ok result =>
          exact (of_bind bound).trans (inductionHypothesis result.2)
      | error error =>
          exact .refl table

end GrowsInto

end NameTable

/-- Restoring the names of a snapshot grows a table. -/
theorem Snapshot.growsInto_of_restoreNames
    {table restored : NameTable}
    {names : List Name}
    (success : restoreNames table names = .ok restored) :
    table.GrowsInto restored := by
  induction names generalizing table with
  | nil =>
      cases success
      exact .refl _
  | cons name rest inductionHypothesis =>
      simp only [restoreNames] at success
      cases bound : table.restore name with
      | error error =>
          simp [bound] at success
      | ok result =>
          simp only [bound] at success
          exact (NameTable.GrowsInto.of_restore bound).trans
            (inductionHypothesis success)

end SymbolDatabase
