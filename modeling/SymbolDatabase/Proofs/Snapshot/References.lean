import SymbolDatabase.Proofs.Names.Union
import SymbolDatabase.Proofs.Restore

namespace SymbolDatabase

/-!
# The names of a snapshot

A snapshot lists the names that the symbols of a database mention, and no others.  A walk
over the symbols, kind by kind and in order within each kind, meets the hashes at every
position of every symbol, and a name is listed where its hash is met first.  With the names
listed, every slot of a function or method is spelled as with all names.
-/

/-- Of two items that are kept without repetitions, the earlier one occurs first. -/
theorem pairwise_idxOf_eraseDups
    {α : Type}
    [DecidableEq α]
    (items : List α) :
    items.eraseDups.Pairwise fun earlier later =>
      items.idxOf earlier < items.idxOf later := by
  induction items using List.reverseRecOn with
  | nil =>
      exact .nil
  | append_singleton front item inductionHypothesis =>
      have samePlace :
          ∀ {kept : α}, kept ∈ front.eraseDups →
            (front ++ [item]).idxOf kept = front.idxOf kept :=
        fun member => List.idxOf_append_of_mem (List.mem_eraseDups.mp member)
      have frontOrdered :
          front.eraseDups.Pairwise fun earlier later =>
            (front ++ [item]).idxOf earlier < (front ++ [item]).idxOf later := by
        refine inductionHypothesis.imp_of_mem ?_
        intro earlier later earlierKept laterKept before
        rw [samePlace earlierKept, samePlace laterKept]
        exact before
      rw [eraseDups_concat]
      split
      next =>
        exact frontOrdered
      next fresh =>
        refine List.pairwise_append.mpr
          ⟨frontOrdered, List.pairwise_singleton _ _, ?_⟩
        intro earlier earlierKept later isLast
        obtain rfl : later = item := List.mem_singleton.mp isLast
        rw [samePlace earlierKept, List.idxOf_append_of_notMem fresh]
        exact Nat.lt_of_lt_of_le
          (List.idxOf_lt_length_of_mem (List.mem_eraseDups.mp earlierKept))
          (Nat.le_add_right _ _)

/-- A slot mentions its own name and its type. -/
inductive Slot.Mentions
    (slot : Slot) :
    NameHash → Prop where
  | name :
      Mentions slot slot.name
  | type :
      Mentions slot slot.type

/-- Where a hash can stand in a symbol. -/
inductive Symbol.Mentions
    (symbol : Symbol) :
    NameHash → Prop where
  | name :
      Mentions symbol symbol.name
  | parent :
      Mentions symbol symbol.parent
  | base
      {size : UInt32}
      {base : NameHash} :
      symbol.body = .record size base →
      Mentions symbol base
  | field
      {slot : Slot}
      {hash : NameHash} :
      symbol.body = .field slot →
      slot.Mentions hash →
      Mentions symbol hash
  | result
      {signature : Signature}
      {slot : Slot}
      {hash : NameHash} :
      symbol.signature? = some signature →
      signature.result = some slot →
      slot.Mentions hash →
      Mentions symbol hash
  | parameter
      {signature : Signature}
      {slot : Slot}
      {hash : NameHash} :
      symbol.signature? = some signature →
      slot ∈ signature.parameters →
      slot.Mentions hash →
      Mentions symbol hash
  | argument
      {size : UInt32}
      {arguments : List TemplateArgument}
      {argument : TemplateArgument} :
      symbol.body = .instantiation size arguments →
      argument ∈ arguments →
      Mentions symbol argument.type

theorem Slot.mem_references
    {slot : Slot}
    {hash : NameHash} :
    hash ∈ slot.references ↔ slot.Mentions hash := by
  rw [references, List.mem_pair]
  constructor
  · rintro (rfl | rfl)
    · exact .name
    · exact .type
  · rintro (_ | _)
    · exact .inl rfl
    · exact .inr rfl

theorem Signature.mem_references
    {signature : Signature}
    {hash : NameHash} :
    hash ∈ signature.references ↔
      (∃ slot, signature.result = some slot ∧ slot.Mentions hash) ∨
        ∃ slot ∈ signature.parameters, slot.Mentions hash := by
  simp only [references, List.mem_flatMap, List.mem_append, Option.mem_toList,
    Slot.mem_references, or_and_right, exists_or]

namespace Symbol

variable {symbol : Symbol} {hash : NameHash}

/-- What a body refers to is mentioned at one of the positions of its kind. -/
theorem mentions_of_mem_references_body
    (member : hash ∈ symbol.body.references) :
    symbol.Mentions hash := by
  have signed :
      ∀ {signature : Signature},
        symbol.signature? = some signature → symbol.Mentions hash := by
    intro signature callable
    rw [references_body_of_signature callable] at member
    rcases Signature.mem_references.mp member with
      ⟨slot, isResult, mentions⟩ | ⟨slot, isParameter, mentions⟩
    · exact .result callable isResult mentions
    · exact .parameter callable isParameter mentions
  cases shape : symbol.body with
  | scope | type | enumeration | enumerator | template =>
      rw [shape] at member
      cases member
  | record size base =>
      rw [shape] at member
      obtain rfl : hash = base := List.mem_singleton.mp member
      exact .base shape
  | field slot =>
      rw [shape] at member
      exact .field shape (Slot.mem_references.mp member)
  | function signature | method signature =>
      exact signed (by rw [signature?, shape]; rfl)
  | instantiation size arguments =>
      rw [shape] at member
      obtain ⟨argument, isArgument, rfl⟩ := List.mem_map.mp member
      exact .argument shape isArgument

/-- A symbol refers to every hash that it mentions, but for the reserved one. -/
theorem mem_references :
    hash ∈ symbol.references ↔ symbol.Mentions hash ∧ hash ≠ NameHash.absent := by
  rw [references, List.mem_filter, decide_eq_true_eq, List.mem_cons, List.mem_cons]
  refine and_congr_left fun _ => ⟨?positions, ?mentions⟩
  case positions =>
    rintro (rfl | rfl | inBody)
    · exact .name
    · exact .parent
    · exact mentions_of_mem_references_body inBody
  case mentions =>
    intro mentions
    cases mentions with
    | name =>
        exact .inl rfl
    | parent =>
        exact .inr (.inl rfl)
    | base shape =>
        rw [shape]
        exact .inr (.inr (List.mem_singleton_self _))
    | field shape inSlot =>
        rw [shape]
        exact .inr (.inr (Slot.mem_references.mpr inSlot))
    | result callable isResult inSlot =>
        rw [references_body_of_signature callable]
        exact .inr (.inr (Signature.mem_references.mpr (.inl ⟨_, isResult, inSlot⟩)))
    | parameter callable isParameter inSlot =>
        rw [references_body_of_signature callable]
        exact .inr (.inr (Signature.mem_references.mpr (.inr ⟨_, isParameter, inSlot⟩)))
    | argument shape isArgument =>
        rw [shape]
        exact .inr (.inr (List.mem_map_of_mem isArgument))

end Symbol

namespace Database

variable {database : Database}

/-- What is referred to is mentioned by a stored symbol, and is not the reserved hash. -/
theorem mem_references
    {hash : NameHash} :
    hash ∈ database.references ↔
      (∃ kind, ∃ symbol ∈ database.symbols kind, symbol.Mentions hash) ∧
        hash ≠ NameHash.absent := by
  rw [references, List.mem_flatMap]
  constructor
  · rintro ⟨symbol, stored, referenced⟩
    obtain ⟨kind, inKind⟩ := mem_all_iff.mp stored
    obtain ⟨mentions, present⟩ := Symbol.mem_references.mp referenced
    exact ⟨⟨kind, symbol, inKind, mentions⟩, present⟩
  · rintro ⟨⟨kind, symbol, inKind, mentions⟩, present⟩
    exact
      ⟨symbol, mem_all_iff.mpr ⟨kind, inKind⟩,
        Symbol.mem_references.mpr ⟨mentions, present⟩⟩

/-- The hashes that symbols refer to, kind by kind and in order within each kind. -/
theorem references_eq_walk
    (database : Database) :
    database.references =
      Kind.all.flatMap fun kind => (database.symbols kind).flatMap Symbol.references :=
  List.flatMap_assoc

/-- Names are kept in the order in which their hashes are met first. -/
theorem pairwise_idxOf_referencedNames
    (database : Database) :
    database.referencedNames.Pairwise fun earlier later =>
      database.references.idxOf earlier.hash < database.references.idxOf later.hash := by
  show (database.references.eraseDups.filterMap database.names.find?).Pairwise _
  refine (pairwise_idxOf_eraseDups database.references).filterMap _ ?_
  intro earlierHash laterHash before earlier earlierFound later laterFound
  rw [NameTable.hash_of_find? earlierFound, NameTable.hash_of_find? laterFound]
  exact before

/-- The slots of a stored function or method are spelled with the kept names as before. -/
theorem WellFormed.spelling_referencedTable
    (wellFormed : database.WellFormed)
    {symbol : Symbol}
    (stored : symbol ∈ database.store.all)
    {signature : Signature}
    (callable : symbol.signature? = some signature)
    {slot : Slot}
    (member : slot ∈ signature.result.toList ++ signature.parameters) :
    slot.spelling database.referencedTable = slot.spelling database.names := by
  have sameType :
      database.referencedTable.resolve slot.type = database.names.resolve slot.type := by
    by_cases isAbsent : slot.type = NameHash.absent
    · rw [isAbsent, wellFormed.names.resolve_absent,
        wellFormed.referencedTable.resolve_absent]
    · exact wellFormed.resolve_referencedTable
        (List.mem_flatMap.mpr
          ⟨symbol, stored, Symbol.type_mem_references callable member isAbsent⟩)
  rw [Slot.spelling, Slot.spelling, sameType]

end Database

/--
The name list of a snapshot is exact.  No hash is listed twice; the bound names that a
stored symbol mentions are listed, and no others; and each stands in the list where a walk
over the symbols, kind by kind, meets its hash first.  The list alone makes up a table in
which every slot of a stored function or method is spelled as in the full one.
-/
theorem referenced_names_exact
    {database : Database}
    (reachable : database.Reachable) :
    (database.referencedNames.map Name.hash).Nodup ∧
      (∀ name,
        name ∈ database.referencedNames ↔
          name ∈ database.names.names ∧
            ∃ kind, ∃ symbol ∈ database.symbols kind, symbol.Mentions name.hash) ∧
      (let walk :=
          Kind.all.flatMap fun kind => (database.symbols kind).flatMap Symbol.references
       database.referencedNames.Pairwise fun earlier later =>
         walk.idxOf earlier.hash < walk.idxOf later.hash) ∧
      ∃ table,
        Snapshot.restoreNames NameTable.empty database.referencedNames = .ok table ∧
          ∀ kind, ∀ symbol ∈ database.symbols kind,
            ∀ signature,
              symbol.signature? = some signature →
                ∀ slot ∈ signature.result.toList ++ signature.parameters,
                  slot.spelling table = slot.spelling database.names := by
  have wellFormed := reachable.wellFormed
  refine ⟨wellFormed.referencedTable.hashesNodup, ?listed, ?ordered, ?spelled⟩
  case listed =>
    intro name
    rw [wellFormed.mem_referencedNames, Database.mem_references]
    refine and_congr_right fun bound => and_iff_left ?_
    exact wellFormed.names.hashPresent name bound
  case ordered =>
    rw [← database.references_eq_walk]
    exact database.pairwise_idxOf_referencedNames
  case spelled =>
    refine
      ⟨database.referencedTable, Snapshot.restoreNames_names wellFormed.referencedTable, ?_⟩
    intro kind symbol inKind signature callable slot member
    exact wellFormed.spelling_referencedTable
      (Database.mem_all_iff.mpr ⟨kind, inKind⟩) callable member

/-- A unit with a class, a function and an instantiation, in a scope that is not named. -/
def meshUnit : Database :=
  let found : Slot :=
    { name := NameHash.absent
      type := NameHash.ofText "Mesh"
      passing := .pointer
      isConst := true
      offset := 0
      arrayLength := 0 }
  (Change.addInstantiation "List<Node>" 0 8 [("Node", true)]).apply
    ((Change.addFunction "find" 0 (some found) [{ found with type := 7 }]).apply
      ((Change.addRecord "Mesh" (NameHash.ofText "gfx") 24 (some "Node")).apply
        ((Change.intern "idle").apply Database.empty)))

/--
The snapshot of the unit lists its names from the class on, and not the one that nothing
mentions.  The result of the function is spelled with the names that are listed.
-/
theorem referenced_names_exact_meshUnit :
    meshUnit.names.names.map Name.text = ["idle", "Mesh", "Node", "find", "List<Node>"] ∧
      meshUnit.referencedNames.map Name.text = ["Mesh", "Node", "find", "List<Node>"] ∧
      (meshUnit.referencedNames.map Name.hash).Nodup ∧
      ⟨NameHash.ofText "Node", "Node"⟩ ∈ meshUnit.referencedNames ∧
      ∃ table,
        Snapshot.restoreNames NameTable.empty meshUnit.referencedNames = .ok table ∧
          ∀ symbol ∈ meshUnit.symbols .function,
            ∀ signature,
              symbol.signature? = some signature →
                ∀ slot ∈ signature.result.toList ++ signature.parameters,
                  slot.spelling table = slot.spelling meshUnit.names := by
  have reachable : meshUnit.Reachable :=
    .change _ (.change _ (.change _ (.change _ .empty)))
  obtain ⟨nodup, listed, -, table, restored, spelled⟩ := referenced_names_exact reachable
  have kept : ⟨NameHash.ofText "Node", "Node"⟩ ∈ meshUnit.referencedNames := by
    decide +kernel
  exact
    ⟨by decide +kernel, by decide +kernel, nodup, kept, table, restored, spelled .function⟩

end SymbolDatabase
