import SymbolDatabase.Proofs.Merge.Redeclaration

namespace SymbolDatabase

/-!
# Overloads and their spelling

A slot is spelled as an optional leading mark, the text of its type and an optional trailing
mark, with nothing between them.  So a text that looks like it carries a mark, as `int*`
does, is spelled like another text with that mark, and the two make overloads of the same
identifier.  Where no text pretends to carry a mark that its slot does not have, the spelling
tells which marks there are and which text, and with it the type.
-/

namespace Passing

/-- The trailing mark of what is held in this way. -/
def mark : Passing → List Char
  | .value =>
      []
  | .pointer =>
      ['*']
  | .reference =>
      ['&']

/-- How something is held whose spelling ends in a character. -/
def ofLast? : Option Char → Passing
  | some '*' =>
      .pointer
  | some '&' =>
      .reference
  | _ =>
      .value

end Passing

namespace Slot

variable {slot : Slot} {names : NameTable}

/-- The text of a slot's type, character by character. -/
def typeText
    (slot : Slot)
    (names : NameTable) :
    List Char :=
  (names.resolve slot.type).text.toList

/-- The leading mark of a slot. -/
def front
    (slot : Slot) :
    List Char :=
  if slot.isConst then "const ".toList else []

/-- A spelling is made of the leading mark, the text and the trailing mark. -/
theorem toList_spelling
    (slot : Slot)
    (names : NameTable) :
    (slot.spelling names).toList =
      slot.front ++ slot.typeText names ++ slot.passing.mark := by
  rw [spelling, front, typeText]
  cases slot.isConst <;> cases slot.passing <;> simp [Passing.mark]

/--
The text of a slot's type does not pretend to carry a mark: it begins with `const ` only if
the slot is constant, and the text of a type that is held by value does not end in the mark
of a pointer or of a reference.
-/
def IsPlain
    (slot : Slot)
    (names : NameTable) :
    Prop :=
  (slot.isConst = false → ¬ "const ".toList <+: slot.typeText names) ∧
    (slot.passing = .value →
      (slot.typeText names).getLast? ≠ some '*' ∧
        (slot.typeText names).getLast? ≠ some '&')

instance
    (slot : Slot)
    (names : NameTable) :
    Decidable (slot.IsPlain names) :=
  inferInstanceAs (Decidable (_ ∧ _))

namespace IsPlain

/-- The last character of a plain spelling tells how the type is held. -/
theorem ofLast?_getLast?
    (plain : slot.IsPlain names) :
    Passing.ofLast? (slot.spelling names).toList.getLast? = slot.passing := by
  rw [toList_spelling, List.getLast?_append, List.getLast?_append]
  cases held : slot.passing with
  | pointer =>
      rfl
  | reference =>
      rfl
  | value =>
      obtain ⟨noPointer, noReference⟩ := plain.2 held
      cases last : (slot.typeText names).getLast? with
      | none =>
          unfold front
          cases slot.isConst <;> decide
      | some character =>
          rw [last] at noPointer noReference
          simp_all [Passing.mark, Passing.ofLast?]

/-- The first characters of a plain spelling tell whether the slot is constant. -/
theorem isConst_iff
    (plain : slot.IsPlain names) :
    slot.isConst = true ↔ "const ".toList <+: slot.front ++ slot.typeText names := by
  unfold front
  cases constant : slot.isConst with
  | true =>
      simp
  | false =>
      simpa using plain.1 constant

end IsPlain

/-- An absent or bound type is the hash that stands for its text. -/
theorem IsClosed.type_eq_standingFor
    (closed : slot.IsClosed names)
    (wellFormed : names.WellFormed)
    (present : ∀ name ∈ names.names, name.text ≠ "") :
    slot.type = NameHash.standingFor (names.resolve slot.type).text := by
  by_cases isAbsent : slot.type = NameHash.absent
  · rw [isAbsent, wellFormed.resolve_absent]
    rfl
  · obtain ⟨name, found⟩ := Option.isSome_iff_exists.mp (closed.resolve_left isAbsent)
    have listed := NameTable.mem_of_find? found
    rw [NameTable.resolve, found, Option.getD_some, NameHash.standingFor,
      if_neg (present name listed), ← wellFormed.hashGenuine name listed,
      NameTable.hash_of_find? found]

/-- Plain slots that are spelled alike are of one type, held in the same way. -/
theorem projection_eq_of_spelling_eq
    {other : Slot}
    (wellFormed : names.WellFormed)
    (present : ∀ name ∈ names.names, name.text ≠ "")
    (closed : slot.IsClosed names)
    (otherClosed : other.IsClosed names)
    (plain : slot.IsPlain names)
    (otherPlain : other.IsPlain names)
    (same : slot.spelling names = other.spelling names) :
    slot.projection = other.projection := by
  have samePassing : slot.passing = other.passing := by
    rw [← plain.ofLast?_getLast?, ← otherPlain.ofLast?_getLast?, same]
  have sameFront :
      slot.front ++ slot.typeText names = other.front ++ other.typeText names := by
    have sameCharacters := congrArg String.toList same
    rw [toList_spelling, toList_spelling, samePassing] at sameCharacters
    exact List.append_cancel_right sameCharacters
  have sameConst : slot.isConst = other.isConst := by
    rw [Bool.eq_iff_iff, plain.isConst_iff, otherPlain.isConst_iff, sameFront]
  have sameText : slot.typeText names = other.typeText names := by
    rw [front, front, sameConst] at sameFront
    exact List.append_cancel_left sameFront
  have sameType : slot.type = other.type := by
    rw [closed.type_eq_standingFor wellFormed present,
      otherClosed.type_eq_standingFor wellFormed present, String.toList_inj.mp sameText]
  rw [projection, projection, sameConst, sameType, samePassing]

end Slot

/-- What determines the one image determines the other one, entry by entry. -/
theorem map_eq_of_map_eq
    {α β γ : Type}
    {spell : α → β}
    {view : α → γ}
    {first second : List α}
    (determines :
      ∀ entry ∈ first, ∀ other ∈ second, spell entry = spell other → view entry = view other)
    (same : first.map spell = second.map spell) :
    first.map view = second.map view := by
  induction first generalizing second with
  | nil =>
      rw [List.map_eq_nil_iff.mp same.symm]
  | cons entry rest inductionHypothesis =>
      obtain ⟨other, others, rfl, sameEntry, sameRest⟩ := List.map_eq_cons_iff.mp same.symm
      rw [List.map_cons, List.map_cons,
        determines entry (by simp) other (by simp) sameEntry.symm,
        inductionHypothesis
          (fun entry member other otherMember =>
            determines entry (by simp [member]) other (by simp [otherMember]))
          sameRest.symm]

namespace Signature

variable {first second : Signature} {names : NameTable}

/-- Two signatures are spelled alike, slot by slot. -/
structure SpelledAlike
    (first second : Signature)
    (names : NameTable) :
    Prop where
  result :
    (first.result.map fun slot => slot.spelling names) =
      second.result.map fun slot => slot.spelling names
  parameters :
    (first.parameters.map fun slot => slot.spelling names) =
      second.parameters.map fun slot => slot.spelling names

/-- What is spelled alike is identified alike. -/
theorem SpelledAlike.identify_eq
    (alike : first.SpelledAlike second names) :
    identify names first.result first.parameters =
      identify names second.result second.parameters := by
  have spelled :
      (fun slot : Slot => slot.spellingHash names) =
        NameHash.ofText ∘ fun slot => slot.spelling names :=
    rfl
  rw [identify_eq_foldl, identify_eq_foldl, spelled, ← Option.map_map, ← Option.map_map,
    ← List.map_map, ← List.map_map, alike.result, alike.parameters]

/-- Signatures of plain slots that are spelled alike are of the same types. -/
theorem SpelledAlike.projections_eq
    (alike : first.SpelledAlike second names)
    (determines :
      ∀ slot ∈ first.slots,
        ∀ other ∈ second.slots,
          slot.spelling names = other.spelling names → slot.projection = other.projection) :
    first.projections = second.projections := by
  have sameResult :
      first.result.map Slot.projection = second.result.map Slot.projection := by
    have spelled := alike.result
    cases firstResult : first.result with
    | none =>
        rw [firstResult, Option.map_none, eq_comm, Option.map_eq_none_iff] at spelled
        rw [spelled]
    | some slot =>
        rw [firstResult, Option.map_some] at spelled
        obtain ⟨other, secondResult, sameSlot⟩ := Option.map_eq_some_iff.mp spelled.symm
        rw [secondResult, Option.map_some, Option.map_some,
          determines slot (by simp [slots, firstResult]) other (by simp [slots, secondResult])
            sameSlot.symm]
  have sameParameters :=
    map_eq_of_map_eq
      (fun slot member other otherMember =>
        determines slot (List.mem_append_right _ member) other
          (List.mem_append_right _ otherMember))
      alike.parameters
  rw [projections, projections, sameResult, sameParameters]

end Signature

/-- Interning lists no further name but that of the text. -/
theorem NameTable.mem_of_intern
    {table later : NameTable}
    {text : String}
    {name : Name}
    (interned : table.intern text = .ok (name, later)) :
    ∀ listed ∈ later.names,
      listed ∈ table.names ∨ (text ≠ "" ∧ listed = ⟨NameHash.ofText text, text⟩) := by
  intro listed member
  unfold NameTable.intern at interned
  split at interned
  next =>
    cases interned
    exact .inl member
  next isText =>
    rw [(NameTable.bind_eq_ok interned).2] at member
    split at member
    · exact .inl member
    · rcases List.mem_append.mp member with old | new
      · exact .inl old
      · exact .inr ⟨isText, List.mem_singleton.mp new⟩

namespace Change

/-- In a run from nothing, no empty text is bound. -/
theorem text_ne_empty_run
    (changes : List Change) :
    ∀ name ∈ (run changes Database.empty).names.names, name.text ≠ "" := by
  refine run_induction
    (fun database => ∀ name ∈ database.names.names, name.text ≠ "") ?step ?empty
  case step =>
    intro change
    refine Change.preserves ?interns ?adds ?labels ?marks change
    case interns =>
      intro text
      apply Edit.Preserves.withNames
      intro database name names holds interned listed member
      rcases NameTable.mem_of_intern interned listed member with old | ⟨isText, rfl⟩
      · exact holds listed old
      · exact isText
    case adds =>
      exact fun symbol changed holds => holds
    case labels =>
      exact fun source changed holds => holds
    case marks =>
      exact fun changed holds => holds
  case empty =>
    intro name member
    cases member

end Change

namespace Symbol

variable {first second : Symbol} {names : NameTable}

/-- Two symbols of one name and scope have signatures that are spelled alike. -/
def SpelledAlike
    (first second : Symbol)
    (names : NameTable) :
    Prop :=
  first.name = second.name ∧ first.parent = second.parent ∧
    ∃ signature otherSignature,
      first.signature? = some signature ∧
        second.signature? = some otherSignature ∧
        signature.SpelledAlike otherSignature names

/-- No text of a type in the signature of a symbol pretends to carry a mark. -/
def IsPlain
    (symbol : Symbol)
    (names : NameTable) :
    Prop :=
  ∀ signature ∈ symbol.signature?, ∀ slot ∈ signature.slots, slot.IsPlain names

instance
    (symbol : Symbol)
    (names : NameTable) :
    Decidable (symbol.IsPlain names) :=
  inferInstanceAs (Decidable (∀ signature ∈ symbol.signature?, ∀ slot ∈ signature.slots, _))

/-- Symbols of one kind, name and scope have one definition if their signatures agree. -/
theorem sameDefinition_of_agrees
    {signature otherSignature : Signature}
    (sameKind : first.kind = second.kind)
    (sameName : first.name = second.name)
    (sameParent : first.parent = second.parent)
    (callable : first.signature? = some signature)
    (otherCallable : second.signature? = some otherSignature)
    (agree : signature.agrees otherSignature = true) :
    first.sameDefinition second = true := by
  obtain ⟨name, parent, body⟩ := first
  obtain ⟨otherName, otherParent, otherBody⟩ := second
  have bodiesAgree : body.agrees otherBody = true := by
    cases body <;> cases callable <;> cases otherBody <;> cases otherCallable <;>
      first | exact agree | cases sameKind
  simp only at sameName sameParent
  simp [Symbol.sameDefinition, sameName, sameParent, bodiesAgree]

/-- Closed symbols that are spelled alike have one identifier. -/
theorem SpelledAlike.identifier?_eq
    (alike : first.SpelledAlike second names)
    (closed : first.IsClosed names)
    (otherClosed : second.IsClosed names) :
    first.identifier? = second.identifier? := by
  obtain ⟨-, -, signature, otherSignature, callable, otherCallable, spelled⟩ := alike
  have genuine := (closed signature callable).1
  have otherGenuine := (otherClosed otherSignature otherCallable).1
  rw [identifier?, identifier?, callable, otherCallable, Option.map_some, Option.map_some,
    genuine, otherGenuine, spelled.identify_eq]

/-- Plain closed symbols that are spelled alike are of the same types. -/
theorem SpelledAlike.projections_eq
    (alike : first.SpelledAlike second names)
    (wellFormed : names.WellFormed)
    (present : ∀ name ∈ names.names, name.text ≠ "")
    (closed : first.IsClosed names)
    (otherClosed : second.IsClosed names)
    (plain : first.IsPlain names)
    (otherPlain : second.IsPlain names) :
    first.signature?.map Signature.projections =
      second.signature?.map Signature.projections := by
  obtain ⟨-, -, signature, otherSignature, callable, otherCallable, spelled⟩ := alike
  have slotsClosed := (closed signature callable).2
  have otherSlotsClosed := (otherClosed otherSignature otherCallable).2
  rw [callable, otherCallable, Option.map_some, Option.map_some,
    spelled.projections_eq fun slot member other otherMember =>
      Slot.projection_eq_of_spelling_eq wellFormed present (slotsClosed slot member)
        (otherSlotsClosed other otherMember) (plain signature callable slot member)
        (otherPlain otherSignature otherCallable other otherMember)]

/-- Spelled alike, of one kind and of the same types, symbols have one definition. -/
theorem SpelledAlike.sameDefinition
    (alike : first.SpelledAlike second names)
    (sameKind : first.kind = second.kind)
    (sameIdentifier : first.identifier? = second.identifier?)
    (sameTypes :
      first.signature?.map Signature.projections =
        second.signature?.map Signature.projections) :
    first.sameDefinition second = true := by
  obtain ⟨sameName, sameParent, signature, otherSignature, callable, otherCallable, -⟩ := alike
  rw [identifier?, identifier?, callable, otherCallable] at sameIdentifier
  rw [callable, otherCallable] at sameTypes
  exact sameDefinition_of_agrees sameKind sameName sameParent callable otherCallable
    (Signature.agrees_iff_projections.mpr
      ⟨Option.some.inj sameIdentifier, Option.some.inj sameTypes⟩)

end Symbol

/-- The identifier of a stored symbol finds a symbol with its name and identifier. -/
theorem Store.Indexed.exists_findCallable?
    {store : Store}
    (indexed : store.Indexed)
    {kind : Kind}
    {symbol : Symbol}
    (member : symbol ∈ store.symbols kind)
    {identifier : UInt64}
    (identified : symbol.identifier? = some identifier) :
    ∃ found ∈ store.symbols kind,
      store.findCallable? kind symbol.name identifier = some found := by
  have candidate : symbol ∈ store.lookup kind symbol.name := by
    rw [indexed.lookup_eq_filter]
    exact List.mem_filter.mpr ⟨member, by simp⟩
  have isFound : (store.findCallable? kind symbol.name identifier).isSome = true := by
    rw [Store.findCallable?, List.isSome_find?]
    exact List.any_eq_true.mpr ⟨symbol, candidate, by simp [identified]⟩
  obtain ⟨found, answered⟩ := Option.isSome_iff_exists.mp isFound
  refine ⟨found, ?_, answered⟩
  have listed := List.mem_of_find?_eq_some answered
  rw [indexed.lookup_eq_filter] at listed
  exact (List.mem_filter.mp listed).1

/-- What is spelled alike and plain stands at one position of a closed database. -/
theorem Database.Closed.position_eq_of_spelledAlike
    {database : Database}
    (closed : database.Closed)
    (distinct : database.Distinct)
    (present : ∀ name ∈ database.names.names, name.text ≠ "")
    {kind : Kind}
    {position otherPosition : Nat}
    {first second : Symbol}
    (there : (database.symbols kind)[position]? = some first)
    (otherThere : (database.symbols kind)[otherPosition]? = some second)
    (alike : first.SpelledAlike second database.names)
    (plain : first.IsPlain database.names)
    (otherPlain : second.IsPlain database.names) :
    first.signature?.map Signature.projections =
        second.signature?.map Signature.projections ∧
      position = otherPosition := by
  have member := List.mem_of_getElem? there
  have otherMember := List.mem_of_getElem? otherThere
  have firstClosed := closed.symbols kind first member
  have secondClosed := closed.symbols kind second otherMember
  have sameTypes :=
    alike.projections_eq closed.wellFormed.names present firstClosed secondClosed plain
      otherPlain
  have sameKind : first.kind = second.kind :=
    (closed.wellFormed.sorted kind first member).trans
      (closed.wellFormed.sorted kind second otherMember).symm
  have sameDefinition :=
    alike.sameDefinition sameKind (alike.identifier?_eq firstClosed secondClosed) sameTypes
  exact ⟨sameTypes, distinct.position_eq there otherThere sameDefinition⟩

/--
A unit is built from nothing, with functions and methods declared with absent or bound types
only.  Two of its functions, or methods, of one name and scope that are spelled alike have
one identifier.  If no text of a type in them pretends to carry a mark, they are of the same
types and stand at one position.  The identifier finds a symbol, which under the same
condition does not hide another one of the scope that is spelled alike.
-/
theorem overloads_told_apart
    {changes : List Change}
    (closed : Change.ClosedRun changes Database.empty)
    {database : Database}
    (built : Change.run changes Database.empty = database)
    {kind : Kind}
    {position otherPosition : Nat}
    {symbol other : Symbol}
    (there : (database.symbols kind)[position]? = some symbol)
    (otherThere : (database.symbols kind)[otherPosition]? = some other)
    (alike : symbol.SpelledAlike other database.names) :
    symbol.identifier? = other.identifier? ∧
      (symbol.IsPlain database.names →
        other.IsPlain database.names →
          symbol.signature?.map Signature.projections =
              other.signature?.map Signature.projections ∧
            position = otherPosition) ∧
      ∃ identifier found,
        symbol.identifier? = some identifier ∧
          database.store.findCallable? kind symbol.name identifier = some found ∧
          (symbol.SpelledAlike found database.names →
            symbol.IsPlain database.names →
            found.IsPlain database.names →
              found = symbol) := by
  subst built
  have unitClosed := Change.closed_run .empty closed
  have present := Change.text_ne_empty_run changes
  have member := List.mem_of_getElem? there
  have sameIdentifier :=
    alike.identifier?_eq (unitClosed.symbols kind symbol member)
      (unitClosed.symbols kind other (List.mem_of_getElem? otherThere))
  refine
    ⟨sameIdentifier,
      unitClosed.position_eq_of_spelledAlike Change.distinct_run present there otherThere alike,
      ?_⟩
  obtain ⟨-, -, signature, -, callable, -⟩ := alike
  have identified : symbol.identifier? = some signature.identifier := by
    rw [Symbol.identifier?, callable, Option.map_some]
  obtain ⟨found, foundMember, answered⟩ :=
    Change.reachable_run.indexed.exists_findCallable? member identified
  refine ⟨signature.identifier, found, identified, answered, ?_⟩
  intro foundAlike plain foundPlain
  obtain ⟨foundPosition, foundThere⟩ := List.mem_iff_getElem?.mp foundMember
  obtain ⟨-, rfl⟩ :=
    unitClosed.position_eq_of_spelledAlike Change.distinct_run present there foundThere
      foundAlike plain foundPlain
  exact Option.some.inj (foundThere.symm.trans there)

/-- A unit that declares two functions `f` with one parameter each, and binds the types. -/
def overloadedUnit
    (first second : String × Passing) :
    List Change :=
  [first, second].flatMap fun parameter =>
    [ .intern parameter.1,
      .addFunction "f" 0 none
        [ { name := 0
            type := NameHash.ofText parameter.1
            passing := parameter.2
            isConst := false
            offset := 0
            arrayLength := 0 } ] ]

/-- Behind the function of a value, the function of a pointer is found by its identifier. -/
theorem overloads_told_apart_pointerOverload :
    ∃ database symbol identifier,
      Change.run (overloadedUnit ("int", .value) ("int", .pointer)) Database.empty =
          database ∧
        (database.symbols .function)[1]? = some symbol ∧
        symbol.identifier? = some identifier ∧
        database.store.findCallable? .function symbol.name identifier = some symbol := by
  obtain ⟨database, built⟩ :
      ∃ database,
        Change.run (overloadedUnit ("int", .value) ("int", .pointer)) Database.empty =
          database :=
    ⟨_, rfl⟩
  obtain ⟨symbol, signature, there, callable, plain, single⟩ :
      ∃ symbol signature,
        (database.symbols .function)[1]? = some symbol ∧
          symbol.signature? = some signature ∧
          symbol.IsPlain database.names ∧
          ∀ found,
            database.store.findCallable? .function symbol.name signature.identifier =
                some found →
              symbol.SpelledAlike found database.names ∧ found.IsPlain database.names := by
    subst built
    refine ⟨_, _, rfl, rfl, by decide +kernel, ?_⟩
    rintro found ⟨⟩
    exact ⟨⟨rfl, rfl, _, _, rfl, rfl, rfl, rfl⟩, by decide +kernel⟩
  have alike : symbol.SpelledAlike symbol database.names :=
    ⟨rfl, rfl, signature, signature, callable, callable, rfl, rfl⟩
  obtain ⟨-, -, identifier, found, identified, answered, unhidden⟩ :=
    overloads_told_apart (by decide +kernel) built there there alike
  obtain rfl : signature.identifier = identifier := by
    rw [Symbol.identifier?, callable] at identified
    exact Option.some.inj identified
  obtain ⟨foundAlike, foundPlain⟩ := single found answered
  obtain rfl : found = symbol := unhidden foundAlike plain foundPlain
  exact ⟨database, found, signature.identifier, built, there, identified, answered⟩

/-- A pointer to `int` and a value of type `int*` make overloads that one identifier hides. -/
theorem not_overloads_told_apart_starredType :
    Change.ClosedRun (overloadedUnit ("int*", .value) ("int", .pointer)) Database.empty ∧
      ∃ database first second identifier,
        Change.run (overloadedUnit ("int*", .value) ("int", .pointer)) Database.empty =
            database ∧
          database.symbols .function = [first, second] ∧
          first.SpelledAlike second database.names ∧
          first.identifier? = some identifier ∧
          second.identifier? = some identifier ∧
          first.signature?.map Signature.projections ≠
            second.signature?.map Signature.projections ∧
          database.store.findCallable? .function second.name identifier = some first := by
  refine ⟨by decide +kernel, _, _, _, _, rfl, rfl, ?_, rfl, ?_, ?_, ?_⟩
  · exact ⟨rfl, rfl, _, _, rfl, rfl, rfl, by decide +kernel⟩
  · decide +kernel
  · decide +kernel
  · decide +kernel

end SymbolDatabase
