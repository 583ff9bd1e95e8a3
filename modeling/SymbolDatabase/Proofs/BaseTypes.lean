import SymbolDatabase.Proofs.Homegrown
import SymbolDatabase.Proofs.Names.Lifetime

namespace SymbolDatabase

/-!
# What the flag of the base types says

The flag is set behind the base types when they were added, and from then on is handed
from database to database apart from them.  What it says stays true all the same.  A merge
may reject a base type in favour of another type of the same name, but then that one stands
in its place.  Where no merge on the way reports a conflict of types, the base types
themselves are there.
-/

namespace Merge

/-- After an input, the keys of all its symbols are occupied, even of rejected ones. -/
theorem isOccupied_settle
    {held incoming : List Symbol}
    {symbol : Symbol}
    (member : symbol ∈ incoming) :
    isOccupied (settle held incoming) symbol = true := by
  rw [isOccupied, settle, List.any_append, Bool.or_eq_true]
  cases fate : verdict held incoming symbol with
  | collapsed =>
      obtain ⟨other, listed, same⟩ := List.any_eq_true.mp (verdict_eq_collapsed_iff.mp fate)
      have sameKey := Symbol.sameKey_iff.mpr (Symbol.key_eq_of_sameDefinition same)
      exact .inl (List.any_eq_true.mpr ⟨other, listed, sameKey⟩)
  | rejected =>
      exact .inl (verdict_eq_rejected_iff.mp fate).2.1
  | appended =>
      have admitted :
          symbol ∈ incoming.filter fun symbol => verdict held incoming symbol = .appended :=
        List.mem_filter.mpr ⟨member, decide_eq_true fate⟩
      exact .inr (List.any_eq_true.mpr ⟨symbol, admitted, Symbol.sameKey_iff.mpr rfl⟩)

end Merge

/-- How a base type is there: a type of its name is, or the base type itself. -/
inductive Presence where
  | named
  | exact
  deriving Repr, DecidableEq

namespace Presence

variable {presence : Presence} {held incoming later : List Symbol} {symbol : Symbol}

/-- Whether a symbol makes another one present. -/
def matching : Presence → Symbol → Symbol → Bool
  | .named =>
      Symbol.sameKey
  | .exact =>
      Symbol.sameDefinition

/-- Whether a list has a symbol in this way. -/
def has
    (presence : Presence)
    (held : List Symbol)
    (symbol : Symbol) :
    Bool :=
  held.any fun other => presence.matching other symbol

/-- The conflicts that leave types present in this way. -/
def admits : Presence → List Conflict → Prop
  | .named, _ =>
      True
  | .exact, conflicts =>
      ∀ conflict ∈ conflicts, conflict.kind ≠ .type

/-- What makes a symbol present has its key. -/
theorem key_eq_of_matching
    {other : Symbol}
    (isMatching : presence.matching other symbol = true) :
    other.key = symbol.key := by
  cases presence with
  | named =>
      exact Symbol.sameKey_iff.mp isMatching
  | exact =>
      exact Symbol.key_eq_of_sameDefinition isMatching

/-- A symbol with a definition that is held is present in either way. -/
theorem has_of_isHeld
    (isHeld : Merge.isHeld held symbol = true) :
    presence.has held symbol = true := by
  cases presence with
  | exact =>
      exact isHeld
  | named =>
      obtain ⟨other, member, same⟩ := List.any_eq_true.mp isHeld
      have sameKey := Symbol.sameKey_iff.mpr (Symbol.key_eq_of_sameDefinition same)
      exact List.any_eq_true.mpr ⟨other, member, sameKey⟩

/-- A symbol that is present stays so when more is listed. -/
theorem has_of_subset
    (isThere : presence.has held symbol = true)
    (included : held ⊆ later) :
    presence.has later symbol = true := by
  obtain ⟨other, member, isMatching⟩ := List.any_eq_true.mp isThere
  exact List.any_eq_true.mpr ⟨other, included member, isMatching⟩

/-- What is present in an input is present after it, unless it is disputed itself. -/
theorem has_settle
    (undisputed : presence = .exact → Merge.disputes held incoming = [])
    (isThere : presence.has incoming symbol = true) :
    presence.has (Merge.settle held incoming) symbol = true := by
  cases presence with
  | exact =>
      show Merge.isHeld (Merge.settle held incoming) symbol = true
      rw [Merge.isHeld_settle (undisputed rfl), Merge.isHeld_append, Bool.or_eq_true]
      exact .inr isThere
  | named =>
      obtain ⟨other, member, sameKey⟩ := List.any_eq_true.mp isThere
      have occupied : Merge.isOccupied (Merge.settle held incoming) other = true :=
        Merge.isOccupied_settle member
      obtain ⟨occupant, listed, occupies⟩ := List.any_eq_true.mp occupied
      refine List.any_eq_true.mpr ⟨occupant, listed, Symbol.sameKey_iff.mpr ?_⟩
      exact (Symbol.sameKey_iff.mp occupies).trans (Symbol.sameKey_iff.mp sameKey)

/-- What is held, or present in one of several inputs, is present after all of them. -/
theorem has_foldl_settle
    {inputs : List (List Symbol)}
    (undisputed : presence = .exact → Merge.disputesAll inputs held = [])
    (isThere :
      presence.has held symbol = true ∨
        ∃ input ∈ inputs, presence.has input symbol = true) :
    presence.has (inputs.foldl Merge.settle held) symbol = true := by
  induction inputs generalizing held with
  | nil =>
      exact isThere.resolve_right (by simp)
  | cons incoming rest inductionHypothesis =>
      have parts :
          presence = .exact →
            Merge.disputes held incoming = [] ∧
              Merge.disputesAll rest (Merge.settle held incoming) = [] :=
        fun isExact => List.append_eq_nil_iff.mp (undisputed isExact)
      refine inductionHypothesis (fun isExact => (parts isExact).2) ?_
      rcases isThere with before | ⟨input, member, inInput⟩
      · exact .inl (has_of_subset before (List.subset_append_left _ _))
      · rcases List.mem_cons.mp member with rfl | later
        · exact .inl (has_settle (fun isExact => (parts isExact).1) inInput)
        · exact .inr ⟨input, later, inInput⟩

/-- Conflicts that leave types present come from inputs that dispute no exact type. -/
theorem disputesAll_eq_nil
    {inputs : List (List Symbol)}
    {conflicts : List Conflict}
    (admitted : presence.admits conflicts)
    (contents :
      Conflict.contentsOf .type conflicts =
        (Merge.disputesAll inputs held).map Merge.disputeContent)
    (isExact : presence = .exact) :
    Merge.disputesAll inputs held = [] := by
  subst isExact
  have none : Conflict.contentsOf .type conflicts = [] := by
    rw [Conflict.contentsOf, List.map_eq_nil_iff, List.filter_eq_nil_iff]
    exact fun conflict member => by simpa using admitted conflict member
  rw [none] at contents
  exact List.map_eq_nil_iff.mp contents.symm

end Presence

/-- The type that stands for a base type, given by its text and its size. -/
def baseSymbol
    (entry : String × UInt32) :
    Symbol :=
  ⟨NameHash.ofText entry.1, NameHash.absent, .type entry.2⟩

namespace Database

variable {database later : Database} {presence : Presence} {entry : String × UInt32}

/-- The name of a base type is bound, and its type is there in the given way. -/
structure Presents
    (presence : Presence)
    (database : Database)
    (entry : String × UInt32) :
    Prop where
  bound :
    database.names.contains (NameHash.ofText entry.1) = true
  stored :
    presence.has (database.symbols .type) (baseSymbol entry) = true

/-- If a database has the flag, all base types are there in the given way. -/
def IsHonest
    (presence : Presence)
    (database : Database) :
    Prop :=
  database.hasBaseTypes = true → ∀ entry ∈ Edit.baseTypes, database.Presents presence entry

/-- What is present stays so in a database that grows. -/
theorem Presents.of_growsInto
    (presents : database.Presents presence entry)
    (grows : database.GrowsInto later) :
    later.Presents presence entry where
  bound :=
    NameTable.contains_of_subset grows.names.subset presents.bound
  stored :=
    Presence.has_of_subset presents.stored (grows.symbols .type).subset

end Database

namespace Change

/-- No operation but adding the base types changes the flag. -/
theorem hasBaseTypes_apply
    (change : Change)
    (single : change ≠ .addBaseTypes)
    (database : Database) :
    (change.apply database).hasBaseTypes = database.hasBaseTypes := by
  have kept :
      Edit.Preserves (fun later => later.hasBaseTypes = database.hasBaseTypes)
        change.edit := by
    refine change.preserves_of_addedKind ?interns ?adds ?labels ?marks
    case interns =>
      exact fun text => .withNames fun _ _ _ same _ => same
    case adds =>
      exact fun symbol _ changed same => same
    case labels =>
      exact fun source changed same => same
    case marks =>
      exact fun isSeeding => (single isSeeding).elim
  exact kept database rfl

end Change

namespace Edit

variable {database later : Database} {presence : Presence} {entry : String × UInt32}

/-- Adding a base type makes it present. -/
theorem presents_of_addType
    {handle : Handle}
    (isText : entry.1 ≠ "")
    (added : Edit.addType entry.1 NameHash.absent entry.2 database = (.ok handle, later)) :
    later.Presents presence entry := by
  cases interned : database.names.intern entry.1 with
  | error error =>
      rw [addType, addNamed, bind_apply, intern_of_eq_error interned] at added
      cases added
  | ok bound =>
      obtain ⟨name, names⟩ := bound
      obtain ⟨hash, contained⟩ := NameTable.contains_of_intern isText interned
      rw [addType, addNamed, bind_apply, intern_of_eq_ok interned] at added
      simp only [addSymbol_eq, hash] at added
      obtain ⟨-, rfl⟩ := Prod.mk.inj added
      obtain ⟨held, holds, same⟩ := database.store.exists_holds_add (baseSymbol entry)
      have isType : held.kind = .type :=
        Symbol.kind_eq_of_sameDefinition same
      have stored := holds.mem_symbols
      rw [isType] at stored
      exact ⟨contained, Presence.has_of_isHeld (List.any_eq_true.mpr ⟨held, stored, same⟩)⟩

/-- Add types one after another. -/
def addTypes
    (entries : List (String × UInt32)) :
    Edit Unit :=
  entries.forM fun entry => discard (addType entry.1 NameHash.absent entry.2)

/-- Adding types is adding the first one, and then the others. -/
theorem addTypes_cons
    (first : String × UInt32)
    (rest : List (String × UInt32))
    (database : Database) :
    addTypes (first :: rest) database =
      (addType first.1 NameHash.absent first.2 >>= fun _ => addTypes rest) database := by
  show ((addType first.1 NameHash.absent first.2 >>= fun _ => pure ()) >>=
    fun _ => addTypes rest) database = _
  rw [bind_apply, bind_apply, bind_apply]
  rcases addType first.1 NameHash.absent first.2 database with ⟨error | handle, middle⟩
  · rfl
  · rfl

/-- Adding types keeps what every operation of adding a type keeps. -/
theorem preserves_addTypes
    {property : Database → Prop}
    (keeps :
      ∀ text size, Preserves property (Change.addType text NameHash.absent size).edit)
    (entries : List (String × UInt32)) :
    Preserves property (addTypes entries) :=
  Preserves.forM fun entry => keeps entry.1 entry.2

/-- A database grows when types are added. -/
theorem growsInto_addTypes
    (entries : List (String × UInt32))
    (database : Database) :
    database.GrowsInto (addTypes entries database).2 :=
  preserves_addTypes
    (fun _ _ _ grows => grows.trans (Change.growsInto_apply _ _)) entries database (.refl _)

/-- Adding types does not change the flag. -/
theorem hasBaseTypes_addTypes
    (entries : List (String × UInt32))
    (database : Database) :
    (addTypes entries database).2.hasBaseTypes = database.hasBaseTypes := by
  have kept :
      Preserves (fun later => later.hasBaseTypes = database.hasBaseTypes)
        (addTypes entries) := by
    refine preserves_addTypes (fun text size later same => ?_) entries
    have single : Change.addType text NameHash.absent size ≠ .addBaseTypes := by
      simp
    exact (Change.hasBaseTypes_apply _ single later).trans same
  exact kept database rfl

/-- Adding types makes all of them present. -/
theorem presents_of_addTypes
    {entries : List (String × UInt32)}
    (areTexts : ∀ entry ∈ entries, entry.1 ≠ "")
    (added : addTypes entries database = (.ok (), later)) :
    ∀ entry ∈ entries, later.Presents presence entry := by
  induction entries generalizing database with
  | nil =>
      simp
  | cons first rest inductionHypothesis =>
      rw [addTypes_cons, bind_apply] at added
      rcases ran : addType first.1 NameHash.absent first.2 database with
        ⟨error | handle, middle⟩ <;> rw [ran] at added
      · cases added
      · -- The first type stays present, as the others only make the database grow.
        have firstPresent : middle.Presents presence first :=
          presents_of_addType (areTexts first (by simp)) ran
        have grows : middle.GrowsInto (addTypes rest middle).2 :=
          growsInto_addTypes rest middle
        rw [show addTypes rest middle = (.ok (), later) from added] at grows
        have restPresent :=
          inductionHypothesis (fun entry member => areTexts entry (by simp [member])) added
        exact List.forall_mem_cons.mpr ⟨firstPresent.of_growsInto grows, restPresent⟩

/-- Adding the base types where they were not added is adding types, and then marking. -/
theorem addBaseTypes_of_not_seeded
    (notSeeded : database.hasBaseTypes = false) :
    addBaseTypes database = (addTypes baseTypes >>= fun _ => markBaseTypes) database := by
  show (if database.hasBaseTypes then _ else _ : Edit Unit) database = _
  rw [if_neg (by simp [notSeeded])]
  rfl

end Edit

namespace Database

variable {database : Database} {presence : Presence}

/-- Adding the base types for the first time leaves an honest database, also if it fails. -/
theorem isHonest_addBaseTypes
    (notSeeded : database.hasBaseTypes = false) :
    (Edit.addBaseTypes database).2.IsHonest presence := by
  rw [Edit.addBaseTypes_of_not_seeded notSeeded, Edit.bind_apply]
  rcases added : Edit.addTypes Edit.baseTypes database with ⟨error | result, later⟩
  · have unmarked := Edit.hasBaseTypes_addTypes Edit.baseTypes database
    rw [added, notSeeded] at unmarked
    intro flag
    cases unmarked.symm.trans flag
  · intro _ entry listed
    have presents : later.Presents presence entry :=
      Edit.presents_of_addTypes (by decide) added entry listed
    exact ⟨presents.bound, presents.stored⟩

/-- An operation keeps a database honest, also if it fails. -/
theorem IsHonest.change
    (honest : database.IsHonest presence)
    (change : Change) :
    (change.apply database).IsHonest presence := by
  cases seeded : database.hasBaseTypes with
  | true =>
      intro _ entry listed
      exact (honest seeded entry listed).of_growsInto (change.growsInto_apply database)
  | false =>
      by_cases isSeeding : change = .addBaseTypes
      · subst isSeeding
        exact isHonest_addBaseTypes seeded
      · intro flag
        rw [change.hasBaseTypes_apply isSeeding, seeded] at flag
        cases flag

/-- Absorbing an honest database keeps a database honest, also if it fails. -/
theorem IsHonest.absorb
    {accumulated input : Database}
    (wellFormed : accumulated.WellFormed)
    (inputWellFormed : input.WellFormed)
    (honest : accumulated.IsHonest presence)
    (inputHonest : input.IsHonest presence)
    (admitted :
      ∀ conflicts,
        (Edit.absorb input accumulated).1 = .ok conflicts → presence.admits conflicts) :
    (Edit.absorb input accumulated).2.IsHonest presence := by
  have grows := wellFormed.growsInto_absorb inputWellFormed
  rcases united : accumulated.names.absorb input.names.names with ⟨error | result, names⟩
  · rw [Edit.absorb_of_absorb_error united] at grows ⊢
    exact fun flag entry listed => (honest flag entry listed).of_growsInto grows
  · obtain ⟨conflicts, extended, absorbed, settles⟩ :=
      Edit.absorb_of_absorb_ok wellFormed inputWellFormed united
    rw [absorbed] at admitted grows ⊢
    intro flag entry listed
    rw [settles.hasBaseTypes, Bool.or_eq_true] at flag
    rcases flag with before | inInput
    · exact (honest before entry listed).of_growsInto grows
    · have presents := inputHonest (by simpa using inInput) entry listed
      constructor
      case bound =>
        rw [settles.names]
        exact NameTable.contains_of_subset (NameTable.subset_of_absorb united) presents.bound
      case stored =>
        rw [settles.symbols]
        refine Presence.has_foldl_settle ?_
          (.inr ⟨_, List.mem_singleton_self _, presents.stored⟩)
        exact Presence.disputesAll_eq_nil (admitted conflicts rfl) (settles.contents .type)

/-- A merge of honest databases is honest. -/
theorem IsHonest.merge
    {inputs : List Database}
    {outcome : MergeOutcome}
    (wellFormed : ∀ input ∈ inputs, input.WellFormed)
    (honest : ∀ input ∈ inputs, input.IsHonest presence)
    (merged : Database.merge inputs = .ok outcome)
    (admitted : presence.admits outcome.conflicts) :
    outcome.database.IsHonest presence := by
  have settles := settles_of_merge_ok wellFormed merged
  intro flag entry listed
  rw [settles.hasBaseTypes, Bool.false_or, List.any_eq_true] at flag
  obtain ⟨input, member, inputFlag⟩ := flag
  have presents := honest input member inputFlag entry listed
  constructor
  case bound =>
    refine NameTable.contains_of_subset (fun name named => ?_) presents.bound
    refine NameTable.subset_of_absorb (absorb_of_merge_ok merged) ?_
    exact List.mem_flatMap_of_mem member named
  case stored =>
    rw [settles.symbols]
    refine Presence.has_foldl_settle ?_
      (.inr ⟨_, List.mem_map_of_mem member, presents.stored⟩)
    exact Presence.disputesAll_eq_nil admitted (settles.contents .type)

/-- A file keeps an honest database honest. -/
theorem IsHonest.trimmed
    (wellFormed : database.WellFormed)
    (honest : database.IsHonest presence) :
    database.trimmed.IsHonest presence := by
  intro flag entry listed
  have presents := honest flag entry listed
  obtain ⟨other, member, isMatching⟩ := List.any_eq_true.mp presents.stored
  have sameName : other.name = NameHash.ofText entry.1 :=
    congrArg (fun key => key.2.1) (Presence.key_eq_of_matching isMatching)
  constructor
  case bound =>
    have present : NameHash.ofText entry.1 ≠ NameHash.absent := by
      intro isAbsent
      have bound := presents.bound
      rw [isAbsent, NameTable.contains, wellFormed.names.find?_absent] at bound
      cases bound
    have referenced : NameHash.ofText entry.1 ∈ database.references := by
      refine List.mem_flatMap_of_mem (mem_all_iff.mpr ⟨.type, member⟩) ?_
      exact List.mem_filter.mpr ⟨by simp [sameName], by simpa using present⟩
    show (database.referencedTable.find? _).isSome = true
    rw [wellFormed.find?_referencedTable referenced]
    exact presents.bound
  case stored =>
    rw [wellFormed.symbols_trimmed]
    exact presents.stored

/-- A homegrown database is honest, as far as the conflicts on the way admit. -/
theorem Homegrown.isHonest
    (presence : Presence)
    (homegrown : database.Homegrown presence.admits) :
    database.IsHonest presence := by
  induction homegrown with
  | empty =>
      intro flag
      cases flag
  | change change _ inductionHypothesis =>
      exact inductionHypothesis.change change
  | absorb accumulated input admitted accumulatedHypothesis inputHypothesis =>
      exact .absorb accumulated.reachable.wellFormed input.reachable.wellFormed
        accumulatedHypothesis inputHypothesis admitted
  | merge inputs merged admitted inductionHypothesis =>
      exact .merge (fun input member => (inputs input member).reachable.wellFormed)
        inductionHypothesis merged admitted
  | ofContainer homegrown saved loaded inductionHypothesis =>
      have wellFormed := homegrown.reachable.wellFormed
      rw [wellFormed.eq_trimmed_of_ofContainer saved loaded]
      exact inductionHypothesis.trimmed wellFormed
  | ofDocument homegrown loaded inductionHypothesis =>
      have wellFormed := homegrown.reachable.wellFormed
      rw [wellFormed.eq_trimmed_of_ofDocument loaded]
      exact inductionHypothesis.trimmed wellFormed

/-- A base type that is present in either way is found under its text. -/
theorem Presents.lookupText_ne_nil
    (presents : database.Presents presence entry)
    (reachable : database.Reachable) :
    database.lookupText .type entry.1 ≠ [] := by
  obtain ⟨other, member, isMatching⟩ := List.any_eq_true.mp presents.stored
  have sameName : other.name = NameHash.ofText entry.1 :=
    congrArg (fun key => key.2.1) (Presence.key_eq_of_matching isMatching)
  rw [lookupText, if_pos presents.bound, reachable.indexed.lookup_eq_filter]
  exact List.ne_nil_of_mem (List.mem_filter.mpr ⟨member, by simpa using sameName⟩)

/-- A base type that is present itself is stored. -/
theorem Presents.mem_symbols
    (presents : database.Presents .exact entry) :
    baseSymbol entry ∈ database.symbols .type := by
  obtain ⟨⟨name, parent, body⟩, member, same⟩ := List.any_eq_true.mp presents.stored
  have sameParts := Symbol.sameDefinition_iff.mp same
  simp only [Symbol.definition, baseSymbol, Body.essence, Symbol.mk.injEq] at sameParts
  obtain ⟨rfl, rfl, sameBody⟩ := sameParts
  cases body <;> cases sameBody
  exact member

end Database

/--
The flag of the base types is honest.  In a homegrown database that has the flag, each of the
twelve base types is found under its text, whatever conflicts were met on the way.  If none of
them was a conflict of types, each of them is stored itself, at the top and with its size.
-/
theorem base_types_flag_honest :
    (∀ database : Database,
      database.Homegrown (fun _ => True) →
      database.hasBaseTypes = true →
        ∀ text ∈
          [ "void", "bool", "char", "unsigned char", "short", "unsigned short", "int",
            "unsigned int", "long", "unsigned long", "float", "double" ],
          database.lookupText .type text ≠ []) ∧
      ∀ database : Database,
        database.Homegrown (fun conflicts => ∀ conflict ∈ conflicts, conflict.kind ≠ .type) →
        database.hasBaseTypes = true →
          ∀ entry ∈
            ([ ("void", 0), ("bool", 1), ("char", 1), ("unsigned char", 1), ("short", 2),
               ("unsigned short", 2), ("int", 4), ("unsigned int", 4), ("long", 8),
               ("unsigned long", 8), ("float", 4), ("double", 8) ] :
              List (String × UInt32)),
            ⟨NameHash.ofText entry.1, NameHash.absent, .type entry.2⟩ ∈
              database.symbols .type := by
  constructor
  · intro database homegrown flag text listed
    have named : text ∈ Edit.baseTypes.map Prod.fst :=
      listed
    obtain ⟨entry, isBaseType, rfl⟩ := List.mem_map.mp named
    have honest := Database.Homegrown.isHonest .named homegrown
    exact (honest flag entry isBaseType).lookupText_ne_nil homegrown.reachable
  · intro database homegrown flag entry listed
    have isBaseType : entry ∈ Edit.baseTypes :=
      listed
    have honest := Database.Homegrown.isHonest .exact homegrown
    exact (honest flag entry isBaseType).mem_symbols

/-- A unit with the base types. -/
def seededUnit : Database :=
  Change.addBaseTypes.apply Database.empty

/-- A unit with a type of the given size under the name of a base type. -/
def integerUnit
    (size : UInt32) :
    Database :=
  (Change.addType "int" NameHash.absent size).apply Database.empty

/-- What absorbing the base types into such a unit answers and leaves. -/
def seedingInto
    (size : UInt32) :
    Except Error (List Conflict) × Database :=
  Edit.absorb seededUnit (integerUnit size)

/-- A client can get there, with conflicts that are admitted. -/
theorem homegrown_seedingInto
    {size : UInt32}
    {admits : List Conflict → Prop}
    (admitted : ∀ conflicts, (seedingInto size).1 = .ok conflicts → admits conflicts) :
    (seedingInto size).2.Homegrown admits :=
  .absorb (.change _ .empty) (.change _ .empty) admitted

/--
Where a type of another size has the name of a base type, there is a conflict, and the name
is found, but not the base type.  Where it has the same size, the base type is stored, and so
are all others.
-/
theorem base_types_flag_honest_seedingInto :
    (seedingInto 2).1.map (List.map Conflict.kind) = .ok [.type] ∧
      (∀ text ∈ ["void", "int", "unsigned long", "double"],
        (seedingInto 2).2.lookupText .type text ≠ []) ∧
      baseSymbol ("int", 4) ∉ (seedingInto 2).2.symbols .type ∧
      (seedingInto 4).1 = .ok [] ∧
      ∀ entry ∈ [("void", 0), ("int", 4), ("unsigned long", 8), ("double", 8)],
        baseSymbol entry ∈ (seedingInto 4).2.symbols .type := by
  have noConflicts : (seedingInto 4).1 = .ok [] := by
    decide +kernel
  have homegrown :
      (seedingInto 4).2.Homegrown
        fun conflicts => ∀ conflict ∈ conflicts, conflict.kind ≠ .type := by
    refine homegrown_seedingInto fun conflicts isOk => ?_
    obtain rfl : [] = conflicts := Except.ok.inj (noConflicts.symm.trans isOk)
    simp
  obtain ⟨named, stored⟩ := base_types_flag_honest
  refine ⟨by decide +kernel, fun text listed => ?_, by decide +kernel, noConflicts,
    fun entry listed => ?_⟩
  · refine named _ (homegrown_seedingInto fun _ _ => trivial) (by decide +kernel) text ?_
    decide +revert
  · refine stored _ homegrown (by decide +kernel) entry ?_
    decide +revert

end SymbolDatabase
