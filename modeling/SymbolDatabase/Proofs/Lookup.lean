import SymbolDatabase.Proofs.Command
import SymbolDatabase.Proofs.Declaration
import SymbolDatabase.Proofs.Failure
import SymbolDatabase.Proofs.Merge.Names
import SymbolDatabase.Proofs.Store

namespace SymbolDatabase

/-!
# Looking up by text

A text is looked up by its hash.  As long as no other bound text has that hash, this finds
the symbols that have the text for a name, and none where the text is not bound; where
another text has taken the hash, the symbols of that other text are found instead.  What an
operation added under a text is found by the text from then on, except under the empty
text, which names nothing.
-/

instance
    (table : NameTable)
    (hash : NameHash)
    (text : String) :
    Decidable (table.Binds hash text) :=
  inferInstanceAs (Decidable (_ = _))

namespace Database

/-- The symbols of a kind whose name is bound to a text. -/
def symbolsNamed
    (database : Database)
    (kind : Kind)
    (text : String) :
    List Symbol :=
  (database.symbols kind).filter fun symbol => database.names.Binds symbol.name text

variable {database : Database} {kind : Kind} {text : String}

/-- A symbol with a text for a name has a name that resolves to the text. -/
theorem resolve_of_mem_symbolsNamed
    {symbol : Symbol}
    (named : symbol ∈ database.symbolsNamed kind text) :
    (database.names.resolve symbol.name).text = text := by
  have bound : database.names.find? symbol.name = some ⟨symbol.name, text⟩ :=
    of_decide_eq_true (List.mem_filter.mp named).2
  rw [NameTable.resolve, bound, Option.getD_some]

/-- A text that is not bound is the name of no symbol. -/
theorem WellFormed.symbolsNamed_eq_nil
    (wellFormed : database.WellFormed)
    (unknown : text ∉ database.names.names.map Name.text) :
    database.symbolsNamed kind text = [] := by
  rw [symbolsNamed, List.filter_eq_nil_iff]
  intro symbol _ bound
  have listed := wellFormed.names.binds_iff.mp (of_decide_eq_true bound)
  exact unknown (List.mem_map.mpr ⟨_, listed, rfl⟩)

/-- Looking up a text finds nothing where no bound text has its hash. -/
theorem lookupText_of_not_listed
    (kind : Kind)
    (unbound : ∀ listed ∈ database.names.names, listed.hash ≠ NameHash.ofText text) :
    database.lookupText kind text = [] := by
  have notBound : ¬ database.names.contains (NameHash.ofText text) = true := by
    rw [NameTable.contains, NameTable.find?_eq_none_iff.mpr unbound]
    exact Bool.false_ne_true
  rw [lookupText, if_neg notBound]

namespace Reachable

/-- Looking up a text finds the symbols of the bound text that has its hash. -/
theorem lookupText_of_listed
    (reachable : database.Reachable)
    (kind : Kind)
    {name : Name}
    (listed : name ∈ database.names.names)
    (sameHash : name.hash = NameHash.ofText text) :
    database.lookupText kind text = database.symbolsNamed kind name.text := by
  have wellFormed := reachable.wellFormed.names
  have isBound : database.names.contains (NameHash.ofText text) = true := by
    rw [NameTable.contains, ← sameHash,
      NameTable.find?_of_mem wellFormed.hashesNodup listed, Option.isSome_some]
  rw [lookupText, if_pos isBound, reachable.indexed.lookup_eq_filter]
  refine List.filter_congr fun symbol _ => ?_
  rw [decide_eq_decide, wellFormed.binds_iff, ← sameHash]
  constructor
  · intro hasHash
    rw [hasHash]
    exact listed
  · intro bound
    exact (wellFormed.hashGenuine _ bound).trans
      (wellFormed.hashGenuine name listed).symm

/-- A text whose hash no other bound text has is looked up as one would expect. -/
theorem lookupText_eq_symbolsNamed
    (reachable : database.Reachable)
    (kind : Kind)
    (alone :
      ∀ listed ∈ database.names.names,
        listed.hash = NameHash.ofText text → listed.text = text) :
    database.lookupText kind text = database.symbolsNamed kind text := by
  have wellFormed := reachable.wellFormed
  by_cases known : ∃ listed ∈ database.names.names, listed.hash = NameHash.ofText text
  · obtain ⟨name, listed, sameHash⟩ := known
    rw [reachable.lookupText_of_listed kind listed sameHash, alone name listed sameHash]
  · have unbound : ∀ listed ∈ database.names.names, listed.hash ≠ NameHash.ofText text :=
      fun listed member sameHash => known ⟨listed, member, sameHash⟩
    rw [lookupText_of_not_listed kind unbound, wellFormed.symbolsNamed_eq_nil]
    intro isListed
    obtain ⟨name, listed, rfl⟩ := List.mem_map.mp isListed
    exact unbound name listed (wellFormed.names.hashGenuine name listed)

/-- A symbol whose name is a bound text is found by the text. -/
theorem mem_lookupText_of_listed
    (reachable : database.Reachable)
    (listed : ⟨NameHash.ofText text, text⟩ ∈ database.names.names)
    {symbol : Symbol}
    (stored : symbol ∈ database.symbols kind)
    (hasName : symbol.name = NameHash.ofText text) :
    symbol ∈ database.lookupText kind text := by
  rw [reachable.lookupText_of_listed kind listed rfl]
  refine List.mem_filter.mpr ⟨stored, decide_eq_true ?_⟩
  rw [hasName]
  exact reachable.wellFormed.names.binds_iff.mpr listed

/--
A symbol with the absent name is found by the absent name.  The empty text does not find
it, because its hash is not the absent one.
-/
theorem found_without_name
    (reachable : database.Reachable)
    {symbol : Symbol}
    (stored : symbol ∈ database.symbols kind)
    (nameless : symbol.name = NameHash.absent) :
    symbol ∈ database.store.lookup kind NameHash.absent ∧
      symbol ∉ database.lookupText kind "" := by
  constructor
  · rw [reachable.indexed.lookup_eq_filter]
    exact List.mem_filter.mpr ⟨stored, decide_eq_true nameless⟩
  · intro found
    unfold lookupText at found
    dsimp only at found
    split at found
    · rw [reachable.indexed.lookup_eq_filter] at found
      have otherName : symbol.name = NameHash.ofText "" :=
        of_decide_eq_true (List.mem_filter.mp found).2
      rw [nameless] at otherName
      exact absurd otherName (by decide +kernel)
    · cases found

end Reachable

end Database

/-- What is printed for the symbols that were found under a name. -/
def Command.listing
    (database : Database)
    (kind : Kind)
    (name : String)
    (found : List Symbol) :
    String :=
  if found = [] then
    Report.line ("no " ++ kind.label ++ " named " ++ Quoted.quote name)
  else
    Report.joined (found.map fun symbol => Report.line (hit database kind name symbol))

theorem Command.hits_eq_listing
    (database : Database)
    (kind : Kind)
    (name : String) :
    hits database kind name =
      listing database kind name (database.lookupText kind name) := by
  unfold hits listing
  cases database.lookupText kind name <;> rfl

/--
In every database that a client can hold, a text whose hash no other bound text has is
looked up truly: found are just the symbols whose name is bound to that text, which
resolves to it, none if the text is not bound, and the command prints just these.  A text
whose hash another bound text has is not bound itself, and its look-up finds the symbols
of that other text.
-/
theorem lookupText_finds_named
    {database : Database}
    (reachable : database.Reachable)
    (kind : Kind)
    (text : String) :
    ((∀ listed ∈ database.names.names,
        listed.hash = NameHash.ofText text → listed.text = text) →
      database.lookupText kind text = database.symbolsNamed kind text ∧
        (∀ symbol ∈ database.lookupText kind text,
          (database.names.resolve symbol.name).text = text) ∧
        (text ∉ database.names.names.map Name.text → database.lookupText kind text = []) ∧
        ∀ view path,
          Database.load view path = .ok database →
            (Command.lookup path kind text).outcome view =
              .finished
                (.success ""
                  (Command.listing database kind text (database.symbolsNamed kind text)))) ∧
      ∀ other ∈ database.names.names,
        other.hash = NameHash.ofText text →
          other.text ≠ text →
            text ∉ database.names.names.map Name.text ∧
              database.lookupText kind text = database.lookupText kind other.text ∧
              database.lookupText kind other.text =
                database.symbolsNamed kind other.text := by
  have wellFormed := reachable.wellFormed
  refine ⟨?alone, ?taken⟩
  case alone =>
    intro alone
    have finds := reachable.lookupText_eq_symbolsNamed kind alone
    refine ⟨finds, ?_, ?_, ?_⟩
    · intro symbol found
      rw [finds] at found
      exact Database.resolve_of_mem_symbolsNamed found
    · intro unknown
      rw [finds, wellFormed.symbolsNamed_eq_nil unknown]
    · intro view path loaded
      rw [← finds, ← Command.hits_eq_listing]
      show Command.withLoaded view path _ = _
      rw [Command.withLoaded, loaded]
  case taken =>
    intro other listed sameHash otherText
    have found := reachable.lookupText_of_listed kind listed sameHash
    have foundByOther :=
      reachable.lookupText_of_listed kind listed (wellFormed.names.hashGenuine other listed)
    refine ⟨?_, found.trans foundByOther.symm, foundByOther⟩
    intro isListed
    obtain ⟨name, nameListed, rfl⟩ := List.mem_map.mp isListed
    have nameHash := wellFormed.names.hashGenuine name nameListed
    have same : name = other :=
      wellFormed.names.unitable.consistent name nameListed other listed
        (nameHash.trans sameHash.symm)
    exact otherText (congrArg Name.text same.symm)

/-- The first of two texts with one hash is looked up truly, and the second one is not. -/
theorem lookupText_finds_named_collidingTexts :
    (∀ symbol ∈ firstTextUnit.lookupText .type collidingTexts.1,
        (firstTextUnit.names.resolve symbol.name).text = collidingTexts.1) ∧
      firstTextUnit.lookupText .type collidingTexts.1 =
        [⟨NameHash.ofText collidingTexts.1, 0, .type 8⟩] ∧
      collidingTexts.2 ∉ firstTextUnit.names.names.map Name.text ∧
      firstTextUnit.lookupText .type collidingTexts.2 =
        firstTextUnit.lookupText .type collidingTexts.1 := by
  have reachable : firstTextUnit.Reachable :=
    .change _ .empty
  have alone :
      ∀ listed ∈ firstTextUnit.names.names,
        listed.hash = NameHash.ofText collidingTexts.1 → listed.text = collidingTexts.1 := by
    decide +kernel
  obtain ⟨finds, resolves, -⟩ :=
    (lookupText_finds_named reachable .type collidingTexts.1).1 alone
  obtain ⟨unknown, sameFound, -⟩ :=
    (lookupText_finds_named reachable .type collidingTexts.2).2
      ⟨NameHash.ofText collidingTexts.1, collidingTexts.1⟩ (by decide +kernel)
      (by decide +kernel) (by decide)
  refine ⟨resolves, ?_, unknown, sameFound⟩
  rw [finds]
  decide +kernel

/-- Of two texts with one hash, the one that is not bound finds a symbol of the other. -/
theorem not_lookupText_finds_named_collidingTexts :
    ¬ ∀ database : Database,
      database.Reachable →
        ∀ kind text,
          (∀ symbol ∈ database.lookupText kind text,
            (database.names.resolve symbol.name).text = text) ∧
            (text ∉ database.names.names.map Name.text →
              database.lookupText kind text = []) := by
  intro truly
  have reachable : firstTextUnit.Reachable :=
    .change _ .empty
  have empty :=
    (truly firstTextUnit reachable .type collidingTexts.2).2 (by decide +kernel)
  have found :
      firstTextUnit.lookupText .type collidingTexts.2 =
        [⟨NameHash.ofText collidingTexts.1, 0, .type 8⟩] := by
    decide +kernel
  rw [found] at empty
  cases empty

/-! ## What was added under a text -/

namespace Edit

/--
An edit answers only handles with a given name, and keeps every name listed.  This is what
the part of an operation does that comes after its name was interned.
-/
structure AnswersUnder
    (hash : NameHash)
    (edit : Edit Handle) :
    Prop where
  handleName :
    ∀ database handle later,
      edit database = (.ok handle, later) → handle.name = hash
  keepsListed :
    ∀ name : Name, Preserves (fun database => name ∈ database.names.names) edit

/-- A text that was interned in a database was interned among its names. -/
theorem intern_names_of_eq_ok
    {text : String}
    {database changed : Database}
    {name : Name}
    (bound : Edit.intern text database = (.ok name, changed)) :
    database.names.intern text = .ok (name, changed.names) := by
  cases interned : database.names.intern text with
  | error error =>
      rw [intern_of_eq_error interned] at bound
      cases bound
  | ok answered =>
      rw [intern_of_eq_ok interned] at bound
      cases bound
      rfl

/-- Interning a text keeps every name listed. -/
theorem preserves_listed_intern
    (name : Name)
    (text : String) :
    Preserves (fun database => name ∈ database.names.names) (Edit.intern text) := by
  apply Preserves.withNames
  intro database bound names listed interned
  have grows := NameTable.GrowsInto.of_intern interned
  exact grows.names_prefix.subset listed

namespace AnswersUnder

variable {hash : NameHash}

/-- Adding a symbol answers a handle with the name of the symbol. -/
theorem addSymbol
    (hash parent : NameHash)
    (body : Body) :
    AnswersUnder hash (Edit.addSymbol ⟨hash, parent, body⟩) where
  handleName database handle later answered := by
    rw [addSymbol_eq] at answered
    cases answered
    obtain ⟨held, holds, same⟩ := database.store.exists_holds_add ⟨hash, parent, body⟩
    have sameName : held.name = hash :=
      Symbol.name_eq_of_sameDefinition same
    exact holds.name.symm.trans sameName
  keepsListed _ _ listed :=
    listed

/-- An edit that ends in another one answers what the other one answers. -/
theorem bind
    {α : Type}
    {first : Edit α}
    {next : α → Edit Handle}
    (keeps : ∀ name : Name, Preserves (fun database => name ∈ database.names.names) first)
    (answers : ∀ result, AnswersUnder hash (next result)) :
    AnswersUnder hash (first >>= next) where
  handleName database handle later answered := by
    obtain ⟨result, changed, -, continued⟩ := exists_of_bind_eq_ok answered
    exact (answers result).handleName changed handle later continued
  keepsListed name :=
    (keeps name).bind fun result => (answers result).keepsListed name

end AnswersUnder

end Edit

namespace Change

variable {change : Change} {text : String}

/-- The text under which an operation adds a symbol, if it is told one. -/
def nameText? : Change → Option String
  | .intern _ | .setSource _ | .addBaseTypes | .addSymbol _ | .valueSlot _ _
  | .addField _ _ =>
      none
  | .addScope text _ | .addType text _ _ | .addRecord text _ _ _
  | .addEnumeration text _ _ | .addEnumerator text _ _ | .addFunction text _ _ _
  | .addMethod text _ _ _ | .addTemplate text _ | .addInstantiation text _ _ _ =>
      some text

/-- An operation that is told a text interns it, and answers a handle with that name. -/
theorem exists_intern_bind
    (named : change.nameText? = some text) :
    ∃ next : Name → Edit Handle,
      change.adding? = some (Edit.intern text >>= next) ∧
        ∀ name, Edit.AnswersUnder name.hash (next name) := by
  have interns := fun (listed : Name) => Edit.preserves_listed_intern listed
  cases change with
  | intern | setSource | addBaseTypes | addSymbol | valueSlot | addField =>
      cases named
  | addScope | addType | addEnumeration | addEnumerator | addTemplate =>
      cases named
      exact ⟨_, rfl, fun name => .addSymbol _ _ _⟩
  | addRecord =>
      cases named
      refine ⟨_, rfl, fun name => .bind (fun listed => ?_) fun _ => .addSymbol _ _ _⟩
      exact .internOptional (interns listed) _
  | addFunction | addMethod =>
      cases named
      refine ⟨_, rfl, fun name => .bind (fun listed => ?_) fun _ => .addSymbol _ _ _⟩
      exact .signature _ _
  | addInstantiation =>
      cases named
      refine ⟨_, rfl, fun name => .bind (fun listed => ?_) fun _ => .addSymbol _ _ _⟩
      exact .mapM fun argument => (interns listed argument.1).bind fun _ => .pure _

/-- The handle that is answered under a text has its hash, and the text is listed. -/
theorem name_of_answer?
    {database : Database}
    {handle : Handle}
    (named : change.nameText? = some text)
    (answered : change.answer? database = some handle) :
    handle.name = NameHash.standingFor text ∧
      (text ≠ "" →
        ⟨NameHash.ofText text, text⟩ ∈ (change.apply database).names.names) := by
  obtain ⟨next, isAdding, answersUnder⟩ := exists_intern_bind named
  rw [apply_of_adding isAdding]
  rw [answer?, isAdding, Option.bind_some] at answered
  rcases ran : (Edit.intern text >>= next) database with ⟨error | result, later⟩
  · rw [ran] at answered
    cases answered
  · rw [ran] at answered
    obtain rfl : result = handle := Option.some.inj answered
    obtain ⟨name, changed, bound, continued⟩ := Edit.exists_of_bind_eq_ok ran
    have interned := Edit.intern_names_of_eq_ok bound
    constructor
    · rw [(answersUnder name).handleName _ _ _ continued, NameTable.hash_of_intern interned]
    · intro isText
      have listed : ⟨NameHash.ofText text, text⟩ ∈ changed.names.names := by
        rw [NameTable.intern, if_neg isText] at interned
        exact NameTable.mem_of_find? (NameTable.find?_of_bind interned)
      have kept := (answersUnder name).keepsListed _ changed listed
      rwa [continued] at kept

end Change

open Operation

/--
A symbol that was added under a text, or that stood for what was added, is found by that
text at once and after any further operations, failed ones included, among the symbols with
that name, unless the text is empty: under the empty text a symbol has the absent name, by
which it is found, and no look-up of the empty text ever finds it.
-/
theorem lookupText_finds_added
    {database : Database}
    (reachable : database.Reachable)
    {change : Change}
    {text : String}
    (named : change.nameText? = some text)
    {handle : Handle}
    (answered : change.answer? database = some handle) :
    ∃ symbol,
      (change.apply database).store.Holds handle symbol ∧
        ∀ operations,
          (∀ operation ∈ operations, operation.Available) →
            let later := run operations (change.apply database)
            later.store.Holds handle symbol ∧
              (text ≠ "" →
                symbol ∈ later.lookupText handle.kind text ∧
                  later.lookupText handle.kind text =
                    later.symbolsNamed handle.kind text) ∧
              (text = "" →
                symbol ∈ later.store.lookup handle.kind NameHash.absent ∧
                  symbol ∉ later.lookupText handle.kind text) := by
  have changed : (change.apply database).Reachable :=
    .change change reachable
  obtain ⟨symbol, held⟩ := Change.exists_holds_of_answer? answered
  obtain ⟨handleName, listed⟩ := Change.name_of_answer? named answered
  refine ⟨symbol, held, ?_⟩
  intro operations available later
  have laterReachable : later.Reachable :=
    reachable_run changed available
  have grows : (change.apply database).GrowsInto later :=
    growsInto_run changed available
  have heldLater := grows.holds held
  have stored : symbol ∈ later.symbols handle.kind := by
    rw [← held.kind]
    exact heldLater.mem_symbols
  have symbolName : symbol.name = NameHash.standingFor text :=
    held.name.trans handleName
  refine ⟨heldLater, ?texts, ?nameless⟩
  case texts =>
    intro isText
    have listedLater := grows.names.subset (listed isText)
    rw [NameHash.standingFor, if_neg isText] at symbolName
    exact
      ⟨laterReachable.mem_lookupText_of_listed listedLater stored symbolName,
        laterReachable.lookupText_of_listed handle.kind listedLater rfl⟩
  case nameless =>
    rintro rfl
    exact laterReachable.found_without_name stored symbolName

/-- A class is added, and then a text that is refused, alone and within a unit. -/
def refusedAfterwards : List Operation :=
  [ .perform (.addType collidingTexts.1 0 8),
    .perform (.addType collidingTexts.2 0 8),
    .absorb secondTextUnit ]

/-- A class is found by its name after two of three further operations have failed. -/
theorem lookupText_finds_added_refusedAfterwards :
    ∃ symbol,
      (run refusedAfterwards
          ((Change.addRecord "Pen" 0 8 (some "Tool")).apply Database.empty)).store.Holds
          ⟨.record, NameHash.ofText "Pen", 0⟩ symbol ∧
        symbol ∈
          (run refusedAfterwards
            ((Change.addRecord "Pen" 0 8 (some "Tool")).apply
              Database.empty)).lookupText .record "Pen" := by
  have available : ∀ operation ∈ refusedAfterwards, operation.Available := by
    intro operation member
    simp only [refusedAfterwards, List.mem_cons, List.not_mem_nil, or_false] at member
    rcases member with rfl | rfl | rfl
    · exact trivial
    · exact trivial
    · exact Database.Reachable.change _ (.change _ .empty)
  have named : (Change.addRecord "Pen" 0 8 (some "Tool")).nameText? = some "Pen" :=
    rfl
  have answered :
      (Change.addRecord "Pen" 0 8 (some "Tool")).answer? Database.empty =
        some ⟨.record, NameHash.ofText "Pen", 0⟩ := by
    decide
  obtain ⟨symbol, -, finds⟩ := lookupText_finds_added .empty named answered
  obtain ⟨held, found, -⟩ := finds refusedAfterwards available
  exact ⟨symbol, held, (found (by decide)).1⟩

/-- A type that was added under the empty text is not found by the empty text. -/
theorem not_lookupText_finds_added_emptyText :
    ¬ ∀ database : Database,
      database.Reachable →
        ∀ (change : Change) (text : String) (handle : Handle),
          change.nameText? = some text →
            change.answer? database = some handle →
              ∃ symbol,
                (change.apply database).store.Holds handle symbol ∧
                  symbol ∈ (change.apply database).lookupText handle.kind text := by
  intro finds
  obtain ⟨symbol, -, found⟩ :=
    finds .empty .empty (.addType "" 0 1) "" ⟨.type, NameHash.absent, 0⟩ rfl
      (by decide +kernel)
  have none :
      ((Change.addType "" 0 1).apply .empty).lookupText .type "" = [] := by
    decide +kernel
  rw [none] at found
  cases found

end SymbolDatabase
