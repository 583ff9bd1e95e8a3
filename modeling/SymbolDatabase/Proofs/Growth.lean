import SymbolDatabase.Proofs.Merge.Definition
import SymbolDatabase.Proofs.Merge.Outcome
import SymbolDatabase.Proofs.Names.Growth

namespace SymbolDatabase

/-!
# Databases that only grow

Whatever a client does to a database, names and symbols are added at the end only, also by
an operation that fails halfway.  So a position keeps its symbol, and a handle that was
answered once leads to the same symbol for good.  A step lemma says what one operation
keeps, and induction over the operations says it of a run.
-/

namespace Store

/-- A handle leads to a position among the symbols of its kind. -/
theorem get?_eq_getElem?
    (store : Store)
    (handle : Handle) :
    store.get? handle = (store.symbols handle.kind)[handle.position]? := by
  rw [get?, symbols, Array.getElem?_toList]

/-- A handle leads to a symbol, which has the kind and the name that the handle tells. -/
structure Holds
    (store : Store)
    (handle : Handle)
    (symbol : Symbol) :
    Prop where
  found :
    store.get? handle = some symbol
  kind :
    symbol.kind = handle.kind
  name :
    symbol.name = handle.name

/-- What a handle leads to stands among the symbols of its kind. -/
theorem Holds.mem_symbols
    {store : Store}
    {handle : Handle}
    {symbol : Symbol}
    (holds : store.Holds handle symbol) :
    symbol ∈ store.symbols symbol.kind := by
  have found := holds.found
  rw [get?_eq_getElem?, ← holds.kind] at found
  exact List.mem_of_getElem? found

/-- A symbol that was put down stands behind those of its kind. -/
theorem get?_push
    (store : Store)
    (symbol : Symbol) :
    (store.push symbol).get?
        ⟨symbol.kind, symbol.name, (store.shelf symbol.kind).symbols.size⟩ =
      some symbol := by
  rw [get?_eq_getElem?, symbols_push, if_pos rfl, symbols]
  simp

/-- The handle that is answered for a symbol leads to the symbol that stands for it. -/
theorem exists_holds_add
    (store : Store)
    (symbol : Symbol) :
    ∃ held,
      (store.add symbol).2.Holds (store.add symbol).1.1 held ∧
        held.sameDefinition symbol = true := by
  unfold add
  simp only
  cases found : (store.shelf symbol.kind).findSame? symbol with
  | none =>
      exact ⟨symbol, ⟨store.get?_push symbol, rfl, rfl⟩, symbol.sameDefinition_self⟩
  | some position =>
      have holdsSame := List.find?_some found
      obtain ⟨held, there, same⟩ := (Option.any_eq_true _ _).mp holdsSame
      refine ⟨held, ⟨there, ?_, ?_⟩, same⟩
      · exact Symbol.kind_eq_of_sameDefinition same
      · exact Symbol.name_eq_of_sameDefinition same

end Store

namespace Edit

/-- Whatever handle an edit answers, a symbol is found behind it. -/
def AnswersHeld
    (edit : Edit Handle) :
    Prop :=
  ∀ database handle later,
    edit database = (.ok handle, later) →
      ∃ symbol, later.store.Holds handle symbol

namespace AnswersHeld

/-- Adding a symbol answers the handle of what stands for it. -/
theorem addSymbol
    (symbol : Symbol) :
    AnswersHeld (Edit.addSymbol symbol) := by
  intro database handle later answered
  rw [addSymbol_eq] at answered
  cases answered
  obtain ⟨held, holds, -⟩ := database.store.exists_holds_add symbol
  exact ⟨held, holds⟩

/-- An edit that ends in another one answers the handle that the other one answers. -/
theorem bind
    {α : Type}
    {first : Edit α}
    {next : α → Edit Handle}
    (held : ∀ result, AnswersHeld (next result)) :
    AnswersHeld (first >>= next) := by
  intro database handle later answered
  obtain ⟨result, changed, -, continued⟩ := exists_of_bind_eq_ok answered
  exact held result changed handle later continued

/-- Adding a named symbol answers its handle. -/
theorem addNamed
    (text : String)
    (parent : NameHash)
    (body : Body) :
    AnswersHeld (Edit.addNamed text parent body) :=
  .bind fun _ => .addSymbol _

end AnswersHeld

end Edit

namespace Change

/-- The edit behind an operation that answers a handle. -/
def adding? : Change → Option (Edit Handle)
  | .intern _ | .setSource _ | .addBaseTypes | .valueSlot _ _ =>
      none
  | .addSymbol symbol =>
      some (Edit.addSymbol symbol)
  | .addScope text parent =>
      some (Edit.addScope text parent)
  | .addType text parent size =>
      some (Edit.addType text parent size)
  | .addRecord text parent size base =>
      some (Edit.addRecord text parent size base)
  | .addEnumeration text parent size =>
      some (Edit.addEnumeration text parent size)
  | .addEnumerator text parent value =>
      some (Edit.addEnumerator text parent value)
  | .addField parent slot =>
      some (Edit.addField parent slot)
  | .addFunction text parent result parameters =>
      some (Edit.addFunction text parent result parameters)
  | .addMethod text parent result parameters =>
      some (Edit.addMethod text parent result parameters)
  | .addTemplate text parent =>
      some (Edit.addTemplate text parent)
  | .addInstantiation text parent size arguments =>
      some (Edit.addInstantiation text parent size arguments)

/-- The handle that an operation answers, if it answers one and does not fail. -/
def answer?
    (change : Change)
    (database : Database) :
    Option Handle :=
  change.adding?.bind fun adding => (adding database).1.toOption

/-- An operation that answers a handle does what the edit behind it does. -/
theorem edit_eq_discard
    {change : Change}
    {adding : Edit Handle}
    (isAdding : change.adding? = some adding) :
    change.edit = Functor.discard adding := by
  cases change <;> cases isAdding <;> rfl

/-- Every edit that answers a handle ends in adding a symbol. -/
theorem answersHeld
    {change : Change}
    {adding : Edit Handle}
    (isAdding : change.adding? = some adding) :
    adding.AnswersHeld := by
  cases change with
  | intern | setSource | addBaseTypes | valueSlot =>
      cases isAdding
  | addSymbol | addField =>
      cases isAdding
      exact .addSymbol _
  | addScope | addType | addEnumeration | addEnumerator | addTemplate =>
      cases isAdding
      exact .addNamed _ _ _
  | addRecord | addFunction | addMethod | addInstantiation =>
      cases isAdding
      exact .bind fun _ => .bind fun _ => .addSymbol _

/-- An operation that answers a handle leaves what the edit behind it leaves. -/
theorem apply_of_adding
    {change : Change}
    {adding : Edit Handle}
    (isAdding : change.adding? = some adding)
    (database : Database) :
    change.apply database = (adding database).2 := by
  rw [apply, edit_eq_discard isAdding]
  show ((adding >>= fun _ => pure ()) database).2 = (adding database).2
  rw [Edit.bind_apply]
  rcases adding database with ⟨result | result, later⟩ <;> rfl

/-- What is found behind a handle once an operation has answered it. -/
theorem exists_holds_of_answer?
    {change : Change}
    {database : Database}
    {handle : Handle}
    (answered : change.answer? database = some handle) :
    ∃ symbol, (change.apply database).store.Holds handle symbol := by
  obtain ⟨adding, isAdding, succeeded⟩ := Option.bind_eq_some_iff.mp answered
  rw [apply_of_adding isAdding]
  rcases ran : adding database with ⟨result | result, later⟩
  · simp [ran, Except.toOption] at succeeded
  · obtain rfl : result = handle := by
      simpa [ran, Except.toOption] using succeeded
    exact answersHeld isAdding database result later ran

end Change

namespace Database

/-- Everything in a database stands at the same place in a later one. -/
structure GrowsInto
    (earlier later : Database) :
    Prop where
  names :
    earlier.names.names <+: later.names.names
  symbols :
    ∀ kind, earlier.symbols kind <+: later.symbols kind
  hasBaseTypes :
    earlier.hasBaseTypes = true → later.hasBaseTypes = true

namespace GrowsInto

variable {earlier middle later : Database}

theorem refl
    (database : Database) :
    database.GrowsInto database where
  names :=
    List.prefix_rfl
  symbols _ :=
    List.prefix_rfl
  hasBaseTypes :=
    id

theorem trans
    (first : earlier.GrowsInto middle)
    (second : middle.GrowsInto later) :
    earlier.GrowsInto later where
  names :=
    first.names.trans second.names
  symbols kind :=
    (first.symbols kind).trans (second.symbols kind)
  hasBaseTypes seeded :=
    second.hasBaseTypes (first.hasBaseTypes seeded)

/-- A handle leads where it led before. -/
theorem get?_eq_some
    (grows : earlier.GrowsInto later)
    {handle : Handle}
    {symbol : Symbol}
    (found : earlier.store.get? handle = some symbol) :
    later.store.get? handle = some symbol := by
  rw [Store.get?_eq_getElem?] at found ⊢
  obtain ⟨inside, isSymbol⟩ := List.getElem?_eq_some_iff.mp found
  have there :=
    List.prefix_iff_getElem?.mp (grows.symbols handle.kind) handle.position inside
  exact there.trans (congrArg some isSymbol)

/-- What was found behind a handle is found there later. -/
theorem holds
    (grows : earlier.GrowsInto later)
    {handle : Handle}
    {symbol : Symbol}
    (held : earlier.store.Holds handle symbol) :
    later.store.Holds handle symbol :=
  ⟨grows.get?_eq_some held.found, held.kind, held.name⟩

end GrowsInto

end Database

/-- An operation changes the names of a database by binding names only. -/
theorem Change.growsInto_names
    (change : Change)
    (database : Database) :
    database.names.GrowsInto (change.apply database).names := by
  have kept :
      Edit.Preserves (fun later => database.names.GrowsInto later.names)
        change.edit := by
    refine Change.preserves ?interns ?adds ?labels ?marks change
    case interns =>
      intro text
      apply Edit.Preserves.withNames
      intro changed name names grows interned
      exact grows.trans (.of_intern interned)
    case adds =>
      exact fun symbol changed grows => grows
    case labels =>
      exact fun source changed grows => grows
    case marks =>
      exact fun changed grows => grows
  exact kept database (.refl _)

/-- A database grows with every operation, even one that fails halfway. -/
theorem Change.growsInto_apply
    (change : Change)
    (database : Database) :
    database.GrowsInto (change.apply database) := by
  have kept : Edit.Preserves database.GrowsInto change.edit := by
    refine Change.preserves ?interns ?adds ?labels ?marks change
    case interns =>
      intro text
      apply Edit.Preserves.withNames
      intro changed name names grows interned
      have namesGrow := NameTable.GrowsInto.of_intern interned
      exact
        ⟨grows.names.trans namesGrow.names_prefix, grows.symbols, grows.hasBaseTypes⟩
    case adds =>
      intro symbol changed grows
      refine ⟨grows.names, ?_, grows.hasBaseTypes⟩
      intro kind
      refine (grows.symbols kind).trans ?_
      rw [Edit.addSymbol_eq]
      rcases changed.store.add_store symbol with same | pushed
      · simp only [Database.symbols, same]
        exact List.prefix_rfl
      · simp only [Database.symbols, pushed, Store.symbols_push]
        split
        · exact List.prefix_append _ _
        · exact List.prefix_rfl
    case labels =>
      exact fun source changed grows =>
        ⟨grows.names, grows.symbols, grows.hasBaseTypes⟩
    case marks =>
      exact fun changed grows => ⟨grows.names, grows.symbols, fun _ => rfl⟩
  exact kept database (.refl database)

/-- A database that absorbs another one grows, also when their names cannot be united. -/
theorem Database.WellFormed.growsInto_absorb
    {accumulated input : Database}
    (wellFormed : accumulated.WellFormed)
    (inputWellFormed : input.WellFormed) :
    accumulated.GrowsInto (Edit.absorb input accumulated).2 := by
  have namesGrow := NameTable.GrowsInto.absorb accumulated.names input.names.names
  rcases united : accumulated.names.absorb input.names.names with ⟨result | result, names⟩
  · rw [united] at namesGrow
    rw [Edit.absorb_of_absorb_error united]
    exact ⟨namesGrow.names_prefix, fun _ => List.prefix_rfl, id⟩
  · rw [united] at namesGrow
    obtain ⟨conflicts, extended, absorbed, settles⟩ :=
      Edit.absorb_of_absorb_ok wellFormed inputWellFormed united
    rw [absorbed]
    refine ⟨?names, ?symbols, ?hasBaseTypes⟩
    case names =>
      rw [settles.names]
      exact namesGrow.names_prefix
    case symbols =>
      intro kind
      rw [settles.symbols]
      exact List.prefix_append _ _
    case hasBaseTypes =>
      intro seeded
      rw [settles.hasBaseTypes, seeded, Bool.true_or]

/-- What a client does to a database at hand. -/
inductive Operation where
  | perform (change : Change)
  | absorb (input : Database)
  deriving Repr, DecidableEq

namespace Operation

/-- An operation that a client can carry out: what it absorbs is at hand as well. -/
def Available : Operation → Prop
  | .perform _ =>
      True
  | .absorb input =>
      input.Reachable

/-- The database after an operation, whether or not the operation succeeded. -/
def apply : Operation → Database → Database
  | .perform change, database =>
      change.apply database
  | .absorb input, database =>
      (Edit.absorb input database).2

/-- The handle that an operation answers, if it answers one and does not fail. -/
def answer? : Operation → Database → Option Handle
  | .perform change, database =>
      change.answer? database
  | .absorb _, _ =>
      none

/-- The database after several operations. -/
def run
    (operations : List Operation)
    (database : Database) :
    Database :=
  operations.foldl (fun current operation => operation.apply current) database

/-- Running more operations is running them on what the first ones left. -/
theorem run_append
    (operations others : List Operation)
    (database : Database) :
    run (operations ++ others) database = run others (run operations database) :=
  List.foldl_append

variable {database : Database} {operation : Operation} {operations : List Operation}

/-- What an operation leaves of a database at hand is at hand. -/
theorem reachable_apply
    (reachable : database.Reachable)
    (available : operation.Available) :
    (operation.apply database).Reachable := by
  cases operation with
  | perform change =>
      exact .change change reachable
  | absorb input =>
      exact .absorb reachable available

/-- What a run leaves of a database at hand is at hand. -/
theorem reachable_run
    (reachable : database.Reachable)
    (available : ∀ operation ∈ operations, operation.Available) :
    (run operations database).Reachable := by
  induction operations generalizing database with
  | nil =>
      exact reachable
  | cons operation rest inductionHypothesis =>
      refine inductionHypothesis ?_ fun later member => available later (by simp [member])
      exact reachable_apply reachable (available operation (by simp))

/-- A database grows with every operation. -/
theorem growsInto_apply
    (reachable : database.Reachable)
    (available : operation.Available) :
    database.GrowsInto (operation.apply database) := by
  cases operation with
  | perform change =>
      exact change.growsInto_apply database
  | absorb input =>
      exact reachable.wellFormed.growsInto_absorb available.wellFormed

/-- A database grows with every run. -/
theorem growsInto_run
    (reachable : database.Reachable)
    (available : ∀ operation ∈ operations, operation.Available) :
    database.GrowsInto (run operations database) := by
  induction operations generalizing database with
  | nil =>
      exact .refl database
  | cons operation rest inductionHypothesis =>
      have isAvailable : operation.Available :=
        available operation (by simp)
      refine (growsInto_apply reachable isAvailable).trans ?_
      exact inductionHypothesis (reachable_apply reachable isAvailable)
        fun later member => available later (by simp [member])

/-- What is found behind a handle once an operation has answered it. -/
theorem exists_holds_of_answer?
    {handle : Handle}
    (answered : operation.answer? database = some handle) :
    ∃ symbol, (operation.apply database).store.Holds handle symbol := by
  cases operation with
  | perform change =>
      exact change.exists_holds_of_answer? answered
  | absorb input =>
      cases answered

end Operation

open Operation

/--
Between any two moments of a run, failed operations included, names and symbols are added
at the end only, base types stay noted, and what was found behind a handle is found there
again.  A handle that an operation answers leads to a symbol of its kind and name, and at
every later moment to that very symbol.
-/
theorem run_only_grows
    {database : Database}
    {operations : List Operation}
    (reachable : database.Reachable)
    (available : ∀ operation ∈ operations, operation.Available) :
    (∀ front middle rest,
      operations = front ++ middle ++ rest →
        (run front database).GrowsInto (run (front ++ middle) database) ∧
          ∀ handle symbol,
            (run front database).store.get? handle = some symbol →
              (run (front ++ middle) database).store.get? handle = some symbol) ∧
      ∀ front operation middle rest handle,
        operations = front ++ operation :: (middle ++ rest) →
        operation.answer? (run front database) = some handle →
          ∃ symbol,
            (run (front ++ [operation]) database).store.Holds handle symbol ∧
              (run (front ++ operation :: middle) database).store.Holds handle symbol := by
  have grows :
      ∀ front middle rest,
        operations = front ++ middle ++ rest →
          (run front database).GrowsInto (run (front ++ middle) database) := by
    rintro front middle rest rfl
    rw [run_append]
    refine growsInto_run (reachable_run reachable ?_) ?_
    · exact fun operation member => available operation (by simp [member])
    · exact fun operation member => available operation (by simp [member])
  refine ⟨?moments, ?answers⟩
  case moments =>
    intro front middle rest shape
    have growsHere := grows front middle rest shape
    exact ⟨growsHere, fun handle symbol => growsHere.get?_eq_some⟩
  case answers =>
    intro front operation middle rest handle shape answered
    obtain ⟨symbol, held⟩ := exists_holds_of_answer? answered
    have heldAtOnce :
        (run (front ++ [operation]) database).store.Holds handle symbol := by
      rw [run_append]
      exact held
    have later := grows (front ++ [operation]) middle rest (by simpa using shape)
    rw [List.append_assoc, List.singleton_append] at later
    exact ⟨symbol, heldAtOnce, later.holds heldAtOnce⟩

/-- A constant is added, a unit that disagrees on it is absorbed, and it is added again. -/
def repeatedConstant : List Operation :=
  [ .perform (.addEnumerator "red" 1 0),
    .absorb ((Change.addEnumerator "red" 2 3).apply Database.empty),
    .perform (.addEnumerator "red" 1 0) ]

/-- The handle of the repeated constant leads to one symbol from first to last. -/
theorem run_only_grows_repeatedConstant :
    ∃ symbol,
      (run (repeatedConstant.take 1) Database.empty).store.Holds
          ⟨.enumerator, NameHash.ofText "red", 0⟩ symbol ∧
        (run repeatedConstant Database.empty).store.Holds
          ⟨.enumerator, NameHash.ofText "red", 0⟩ symbol := by
  have available : ∀ operation ∈ repeatedConstant, operation.Available := by
    intro operation member
    simp only [repeatedConstant, List.mem_cons, List.not_mem_nil, or_false] at member
    rcases member with rfl | rfl | rfl
    · exact trivial
    · exact Database.Reachable.change _ .empty
    · exact trivial
  have answered :
      (Operation.perform (.addEnumerator "red" 1 0)).answer? Database.empty =
        some ⟨.enumerator, NameHash.ofText "red", 0⟩ := by
    decide
  exact
    (run_only_grows .empty available).2 [] (.perform (.addEnumerator "red" 1 0))
      (repeatedConstant.drop 1) [] ⟨.enumerator, NameHash.ofText "red", 0⟩ rfl answered

end SymbolDatabase
