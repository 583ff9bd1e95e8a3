import SymbolDatabase.Proofs.Names.Growth

namespace SymbolDatabase

/-!
# Name tables with an index

To find a hash in one step, a table is kept as its names and, beside them, an index of
the position at which each hash stands.  A look-up goes through the index to the name, so
it has no answer where the index leads to a position that is not there.  Names and index
are extended one after the other, and whatever is bound to whatever hashes, the index
leads to the name that a walk over all names meets first.
-/

/-- Names, and the position at which each hash stands among them. -/
structure IndexedTable where
  names : List Name
  positions : List (NameHash × Nat)
  deriving Repr, DecidableEq

namespace IndexedTable

/-- The indexed table without names. -/
def empty : IndexedTable :=
  ⟨[], []⟩

/-- Note that a name stands behind all others. -/
def push
    (indexed : IndexedTable)
    (name : Name) :
    IndexedTable :=
  { names := indexed.names ++ [name]
    positions := (name.hash, indexed.names.length) :: indexed.positions }

/-- The name bound to a hash, or the absent name, if the position is there. -/
def resolve?
    (indexed : IndexedTable)
    (hash : NameHash) :
    Option Name :=
  match indexed.positions.lookup hash with
  | some position =>
      indexed.names[position]?
  | none =>
      some Name.absent

/-- Bind a text to a hash as a table does, going through the index. -/
def bind?
    (indexed : IndexedTable)
    (hash : NameHash)
    (text : String) :
    Option (Except Error (Name × IndexedTable)) :=
  if hash = NameHash.absent then
    some (.error (.nameCollision hash "" text))
  else
    match indexed.positions.lookup hash with
    | some position => do
        let existing ← indexed.names[position]?
        if existing.text = text then
          return .ok (existing, indexed)
        else
          return .error (.nameCollision hash existing.text text)
    | none =>
        some (.ok (⟨hash, text⟩, indexed.push ⟨hash, text⟩))

/-- Bind names one after another, and pass over the names that are refused. -/
def bindEach?
    (indexed : IndexedTable) :
    List Name → Option IndexedTable
  | [] =>
      some indexed
  | name :: rest =>
      match indexed.bind? name.hash name.text with
      | some (.ok (_, extended)) =>
          extended.bindEach? rest
      | some (.error _) =>
          indexed.bindEach? rest
      | none =>
          none

/-- An index leads to the first position of every hash among the names of a table. -/
structure Indexes
    (indexed : IndexedTable)
    (table : NameTable) :
    Prop where
  names :
    indexed.names = table.names
  positions :
    ∀ hash,
      indexed.positions.lookup hash =
        table.names.findIdx? fun name => name.hash = hash

namespace Indexes

variable {indexed : IndexedTable} {table : NameTable}

/-- The empty index belongs to the table without names. -/
theorem empty :
    IndexedTable.empty.Indexes NameTable.empty where
  names :=
    rfl
  positions _ :=
    rfl

/-- A walk over the names finds what stands at the position of the hash. -/
theorem find?_eq_bind
    (indexes : indexed.Indexes table)
    (hash : NameHash) :
    table.find? hash =
      (indexed.positions.lookup hash).bind fun position => indexed.names[position]? := by
  rw [indexes.positions, indexes.names]
  exact List.find?_eq_bind_findIdx?_getElem?

/-- A hash without a position is not bound. -/
theorem lookup_eq_none_iff
    (indexes : indexed.Indexes table)
    (hash : NameHash) :
    indexed.positions.lookup hash = none ↔ table.find? hash = none := by
  rw [indexes.positions, List.findIdx?_eq_none_iff, NameTable.find?_eq_none_iff]
  simp

/-- Through the index, a hash leads where it leads in the table. -/
theorem resolve?_eq_some
    (indexes : indexed.Indexes table)
    (hash : NameHash) :
    indexed.resolve? hash = some (table.resolve hash) := by
  have found := indexes.find?_eq_bind hash
  unfold resolve? NameTable.resolve
  cases place : indexed.positions.lookup hash with
  | none =>
      rw [(indexes.lookup_eq_none_iff hash).mp place]
      rfl
  | some position =>
      rw [place, Option.bind_some] at found
      cases bound : table.find? hash with
      | none =>
          rw [(indexes.lookup_eq_none_iff hash).mpr bound] at place
          cases place
      | some name =>
          rw [bound] at found
          exact found.symm

/-- An index stays right when a hash that is not bound is listed last. -/
theorem push
    (indexes : indexed.Indexes table)
    {name : Name}
    (missing : table.find? name.hash = none) :
    (indexed.push name).Indexes ⟨table.names ++ [name]⟩ where
  names := by
    simp [IndexedTable.push, indexes.names]
  positions hash := by
    have others := indexes.positions hash
    by_cases same : hash = name.hash
    · subst same
      have place := (indexes.lookup_eq_none_iff name.hash).mpr missing
      rw [others] at place
      simp [IndexedTable.push, List.findIdx?_append, place, indexes.names]
    · have apart : (hash == name.hash) = false := beq_eq_false_iff_ne.mpr same
      simp [IndexedTable.push, List.lookup_cons, apart, List.findIdx?_append, others,
        Ne.symm same]

/--
Going through the index binds what the table binds and refuses what the table refuses,
and leaves an index of the table that results.
-/
theorem bind
    (indexes : indexed.Indexes table)
    (hash : NameHash)
    (text : String) :
    match table.bind hash text with
    | .ok (name, extended) =>
        ∃ later,
          indexed.bind? hash text = some (.ok (name, later)) ∧ later.Indexes extended
    | .error error =>
        indexed.bind? hash text = some (.error error) := by
  unfold NameTable.bind bind?
  by_cases isAbsent : hash = NameHash.absent
  · simp [isAbsent]
  have found := indexes.find?_eq_bind hash
  simp only [isAbsent, ↓reduceIte]
  cases bound : table.find? hash with
  | none =>
      rw [(indexes.lookup_eq_none_iff hash).mpr bound]
      exact ⟨_, rfl, indexes.push bound⟩
  | some existing =>
      cases place : indexed.positions.lookup hash with
      | none =>
          rw [(indexes.lookup_eq_none_iff hash).mp place] at bound
          cases bound
      | some position =>
          rw [place, bound, Option.bind_some] at found
          by_cases sameText : existing.text = text
          · simp [← found, sameText, indexes]
          · simp [← found, sameText]

/-- Whatever names are bound, the index is always there and always right. -/
theorem bindEach
    (indexes : indexed.Indexes table)
    (names : List Name) :
    ∃ later,
      indexed.bindEach? names = some later ∧ later.Indexes (table.bindEach names) := by
  induction names generalizing indexed table with
  | nil =>
      exact ⟨indexed, rfl, indexes⟩
  | cons name rest inductionHypothesis =>
      have step := indexes.bind name.hash name.text
      simp only [bindEach?, NameTable.bindEach]
      cases bound : table.bind name.hash name.text with
      | error error =>
          rw [bound] at step
          simp only [step]
          exact inductionHypothesis indexes
      | ok result =>
          rw [bound] at step
          obtain ⟨extended, answered, extendedIndexes⟩ := step
          simp only [answered]
          exact inductionHypothesis extendedIndexes

end Indexes

end IndexedTable

end SymbolDatabase
