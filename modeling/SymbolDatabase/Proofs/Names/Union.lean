import Mathlib.Data.List.Induction
import SymbolDatabase.Proofs.Names

namespace SymbolDatabase

/-!
# Uniting names in any order

Names can be absorbed into the empty table exactly if none of them has the absent hash
and no hash stands for two texts.  The order of the names plays no part in that, nor in
what the hashes are bound to in the end; it only decides the order in which they are
listed, which is that of their first occurrences.
-/

/-- Of an item behind others only its first occurrence is kept. -/
theorem eraseDups_concat
    {α : Type}
    [DecidableEq α]
    (items : List α)
    (item : α) :
    (items ++ [item]).eraseDups =
      if item ∈ items then items.eraseDups else items.eraseDups ++ [item] := by
  rw [List.eraseDups_append]
  split
  next listed =>
    simp [List.removeAll, listed]
  next fresh =>
    simp [List.removeAll, fresh, List.eraseDups_cons]

/-- Items that are all different are all kept. -/
theorem eraseDups_of_nodup
    {α : Type}
    [DecidableEq α]
    {items : List α}
    (nodup : items.Nodup) :
    items.eraseDups = items := by
  induction items using List.reverseRecOn with
  | nil =>
      rfl
  | append_singleton front item inductionHypothesis =>
      obtain ⟨frontNodup, -, apart⟩ := List.nodup_append.mp nodup
      have fresh : item ∉ front :=
        fun listed => apart item listed item (List.mem_singleton_self item) rfl
      rw [eraseDups_concat, if_neg fresh, inductionHypothesis frontNodup]

namespace NameTable

/-- Names among which no hash is reserved and no hash stands for two texts. -/
structure Unitable
    (names : List Name) :
    Prop where
  present :
    ∀ name ∈ names, name.hash ≠ NameHash.absent
  consistent :
    ∀ first ∈ names, ∀ second ∈ names, first.hash = second.hash → first = second

/-- Some of the names that can be united can be united. -/
theorem Unitable.of_subset
    {names some : List Name}
    (unitable : Unitable names)
    (subset : some ⊆ names) :
    Unitable some where
  present name member :=
    unitable.present name (subset member)
  consistent first firstMember second secondMember :=
    unitable.consistent first (subset firstMember) second (subset secondMember)

/-- The names of a well-formed table can be united. -/
theorem WellFormed.unitable
    {table : NameTable}
    (wellFormed : table.WellFormed) :
    Unitable table.names where
  present :=
    wellFormed.hashPresent
  consistent first firstMember second secondMember sameHash := by
    have firstFound := find?_of_mem wellFormed.hashesNodup firstMember
    have secondFound := find?_of_mem wellFormed.hashesNodup secondMember
    rw [sameHash, secondFound] at firstFound
    exact (Option.some.inj firstFound).symm

/-- In a table of names that can be united, every listed name is found. -/
theorem Unitable.find?_eq_some_iff
    {table : NameTable}
    (unitable : Unitable table.names)
    {hash : NameHash}
    {name : Name} :
    table.find? hash = some name ↔ name ∈ table.names ∧ name.hash = hash := by
  constructor
  · intro found
    exact ⟨mem_of_find? found, hash_of_find? found⟩
  · rintro ⟨listed, rfl⟩
    cases found : table.find? name.hash with
    | none =>
        exact (find?_eq_none_iff.mp found name listed rfl).elim
    | some other =>
        rw [unitable.consistent other (mem_of_find? found) name listed
          (hash_of_find? found)]

/-- Binding a name lists it besides the names that were listed. -/
theorem mem_of_bind
    {table extended : NameTable}
    {name answer : Name}
    (bound : table.bind name.hash name.text = .ok (answer, extended))
    (other : Name) :
    other ∈ extended.names ↔ other = name ∨ other ∈ table.names := by
  have listed : name ∈ extended.names :=
    mem_of_find? (find?_of_bind bound)
  obtain ⟨-, namesShape⟩ := bind_eq_ok bound
  split at namesShape
  · rw [namesShape] at listed ⊢
    constructor
    · exact Or.inr
    · rintro (rfl | old)
      · exact listed
      · exact old
  · rw [namesShape, List.mem_append, List.mem_singleton, or_comm]

/-- Absorbing names lists them besides the names that were listed. -/
theorem mem_of_absorb
    {table extended : NameTable}
    {names : List Name}
    (absorbed : table.absorb names = (.ok (), extended))
    (other : Name) :
    other ∈ extended.names ↔ other ∈ names ∨ other ∈ table.names := by
  induction names generalizing table with
  | nil =>
      obtain rfl : table = extended := by
        simpa [absorb] using absorbed
      simp
  | cons name rest inductionHypothesis =>
      obtain ⟨answer, middle, bound, later⟩ := absorb_cons_eq_ok absorbed
      rw [inductionHypothesis later, mem_of_bind bound, List.mem_cons, or_left_comm,
        or_assoc]

/-- Names that were absorbed can be united. -/
theorem unitable_of_absorb
    {table extended : NameTable}
    {names : List Name}
    (absorbed : table.absorb names = (.ok (), extended)) :
    Unitable names where
  present := by
    induction names generalizing table with
    | nil =>
        simp
    | cons name rest inductionHypothesis =>
        obtain ⟨answer, middle, bound, later⟩ := absorb_cons_eq_ok absorbed
        intro other member
        rcases List.mem_cons.mp member with rfl | inRest
        · exact hash_ne_absent_of_bind bound
        · exact inductionHypothesis later other inRest
  consistent first firstMember second secondMember sameHash := by
    have firstFound := find?_of_mem_absorb absorbed firstMember
    have secondFound := find?_of_mem_absorb absorbed secondMember
    rw [sameHash, secondFound] at firstFound
    exact (Option.some.inj firstFound).symm

/-- Names that can be united are listed in the order of their first occurrences. -/
theorem absorb_eraseDups
    (earlier : List Name)
    {names : List Name}
    (unitable : Unitable (earlier ++ names)) :
    absorb ⟨earlier.eraseDups⟩ names = (.ok (), ⟨(earlier ++ names).eraseDups⟩) := by
  induction names generalizing earlier with
  | nil =>
      simp [absorb]
  | cons name rest inductionHypothesis =>
      have present : name.hash ≠ NameHash.absent :=
        unitable.present name (by simp)
      have shifted : Unitable ((earlier ++ [name]) ++ rest) := by
        simpa using unitable
      have later :
          absorb ⟨(earlier ++ [name]).eraseDups⟩ rest =
            (.ok (), ⟨(earlier ++ name :: rest).eraseDups⟩) := by
        simpa using inductionHypothesis _ shifted
      rw [eraseDups_concat] at later
      cases found : find? ⟨earlier.eraseDups⟩ name.hash with
      | none =>
          have fresh : name ∉ earlier := fun listed =>
            find?_eq_none_iff.mp found name (List.mem_eraseDups.mpr listed) rfl
          rw [if_neg fresh] at later
          simpa only [absorb, bind_of_find?_eq_none present found] using later
      | some existing =>
          have listed : existing ∈ earlier :=
            List.mem_eraseDups.mp (mem_of_find? found)
          obtain rfl : existing = name :=
            unitable.consistent existing (by simp [listed]) name (by simp)
              (hash_of_find? found)
          rw [if_pos listed] at later
          simpa only [absorb, bind_of_find?_eq_some present found] using later

/-- Two tables list the same names, in whatever order. -/
def SameNames
    (first second : NameTable) :
    Prop :=
  ∀ name, name ∈ first.names ↔ name ∈ second.names

/--
Names that were united into the empty table can be united in any other order, which
binds the same names.
-/
theorem absorb_of_sameNames
    {table : NameTable}
    {names others : List Name}
    (absorbed : empty.absorb names = (.ok (), table))
    (same : ∀ name, name ∈ names ↔ name ∈ others) :
    ∃ other,
      empty.absorb others = (.ok (), other) ∧
        SameNames table other ∧
        ∀ hash, table.resolve hash = other.resolve hash := by
  have unitable := unitable_of_absorb absorbed
  have othersUnitable : Unitable others :=
    unitable.of_subset fun name member => (same name).mpr member
  obtain ⟨other, otherAbsorbed⟩ : ∃ other, empty.absorb others = (.ok (), other) :=
    ⟨_, absorb_eraseDups [] othersUnitable⟩
  have listed : ∀ name, name ∈ table.names ↔ name ∈ names := by
    intro name
    simpa [empty] using mem_of_absorb absorbed name
  have otherListed : ∀ name, name ∈ other.names ↔ name ∈ others := by
    intro name
    simpa [empty] using mem_of_absorb otherAbsorbed name
  have sameNames : SameNames table other := by
    intro name
    rw [listed, same, otherListed]
  refine ⟨other, otherAbsorbed, sameNames, ?_⟩
  intro hash
  have tableUnitable : Unitable table.names :=
    unitable.of_subset fun name => (listed name).mp
  have otherUnitable : Unitable other.names :=
    othersUnitable.of_subset fun name => (otherListed name).mp
  have sameFound : table.find? hash = other.find? hash := by
    ext name
    rw [tableUnitable.find?_eq_some_iff, otherUnitable.find?_eq_some_iff,
      sameNames name]
  rw [resolve, resolve, sameFound]

end NameTable

end SymbolDatabase
