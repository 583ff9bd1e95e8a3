import SymbolDatabase.Container
import SymbolDatabase.Merge
import SymbolDatabase.Proofs.Names

namespace SymbolDatabase

/-!
# Reachable databases

A client changes a database by a fixed set of operations, and gets databases from
merges, from absorbing one database into another, and from snapshots, which is where
both file formats lead.  This module collects those ways in one inductive predicate,
and shows that whatever a client does, failures included, names stay bound as they
should be and every symbol stands among those of its own kind.
-/

/-- One operation that changes a database, with everything it is told. -/
inductive Change where
  | intern (text : Option String)
  | setSource (source : Option String)
  | addBaseTypes
  | addSymbol (symbol : Symbol)
  | addScope (text : String) (parent : NameHash)
  | addType (text : String) (parent : NameHash) (size : UInt32)
  | addRecord
      (text : String) (parent : NameHash) (size : UInt32) (base : Option String)
  | addEnumeration (text : String) (parent : NameHash) (size : UInt32)
  | addEnumerator (text : String) (parent : NameHash) (value : Int64)
  | valueSlot (text type : String)
  | addField (parent : NameHash) (slot : Slot)
  | addFunction
      (text : String) (parent : NameHash) (result : Option Slot)
      (parameters : List Slot)
  | addMethod
      (text : String) (parent : NameHash) (result : Option Slot)
      (parameters : List Slot)
  | addTemplate (text : String) (parent : NameHash)
  | addInstantiation
      (text : String) (parent : NameHash) (size : UInt32)
      (arguments : List (String × Bool))
  deriving Repr, DecidableEq

namespace Change

/-- The edit that an operation stands for. -/
def edit : Change → Edit Unit
  | .intern text =>
      discard (Edit.internOptional text)
  | .setSource source =>
      Edit.setSource source
  | .addBaseTypes =>
      Edit.addBaseTypes
  | .addSymbol symbol =>
      discard (Edit.addSymbol symbol)
  | .addScope text parent =>
      discard (Edit.addScope text parent)
  | .addType text parent size =>
      discard (Edit.addType text parent size)
  | .addRecord text parent size base =>
      discard (Edit.addRecord text parent size base)
  | .addEnumeration text parent size =>
      discard (Edit.addEnumeration text parent size)
  | .addEnumerator text parent value =>
      discard (Edit.addEnumerator text parent value)
  | .valueSlot text type =>
      discard (Edit.valueSlot text type)
  | .addField parent slot =>
      discard (Edit.addField parent slot)
  | .addFunction text parent result parameters =>
      discard (Edit.addFunction text parent result parameters)
  | .addMethod text parent result parameters =>
      discard (Edit.addMethod text parent result parameters)
  | .addTemplate text parent =>
      discard (Edit.addTemplate text parent)
  | .addInstantiation text parent size arguments =>
      discard (Edit.addInstantiation text parent size arguments)

/-- The database after an operation, whether or not the operation succeeded. -/
def apply
    (change : Change)
    (database : Database) :
    Database :=
  (change.edit database).2

end Change

namespace Database

/-- The databases that a client can hold. -/
inductive Reachable : Database → Prop where
  | empty :
      Reachable Database.empty
  | change
      (change : Change)
      {database : Database} :
      Reachable database →
      Reachable (change.apply database)
  | absorb
      {accumulated input : Database} :
      Reachable accumulated →
      Reachable input →
      Reachable (Edit.absorb input accumulated).2
  | merge
      {inputs : List Database}
      {outcome : MergeOutcome} :
      (∀ input ∈ inputs, Reachable input) →
      Database.merge inputs = .ok outcome →
      Reachable outcome.database
  | restore
      {snapshot : Snapshot}
      {database : Database} :
      snapshot.restore = .ok database →
      Reachable database

/-- A container is read by restoring the snapshot in it. -/
theorem restore_of_ofContainer
    {bytes : Bytes}
    {database : Database}
    (loaded : Database.ofContainer bytes = .ok database) :
    ∃ snapshot,
      Container.unpack bytes = .ok snapshot ∧ snapshot.restore = .ok database := by
  unfold Database.ofContainer at loaded
  split at loaded
  next snapshot unpacked =>
    exact ⟨snapshot, unpacked, loaded⟩
  next =>
    cases loaded

/-- A document is read by restoring the snapshot that it holds. -/
theorem restore_of_ofDocument
    {document : Bytes}
    {database : Database}
    (loaded : Database.ofDocument document = .ok database) :
    ∃ snapshot,
      Snapshot.ofDocument document = .ok snapshot ∧ snapshot.restore = .ok database := by
  unfold Database.ofDocument at loaded
  cases read : Snapshot.ofDocument document with
  | error error =>
      rw [read] at loaded
      cases loaded
  | ok snapshot =>
      rw [read] at loaded
      exact ⟨snapshot, rfl, loaded⟩

namespace Reachable

/-- A database read from a container is reachable. -/
theorem ofContainer
    {bytes : Bytes}
    {database : Database}
    (loaded : Database.ofContainer bytes = .ok database) :
    Reachable database := by
  obtain ⟨snapshot, -, restored⟩ := restore_of_ofContainer loaded
  exact .restore restored

/-- A database read from a document is reachable. -/
theorem ofDocument
    {document : Bytes}
    {database : Database}
    (loaded : Database.ofDocument document = .ok database) :
    Reachable database := by
  obtain ⟨snapshot, -, restored⟩ := restore_of_ofDocument loaded
  exact .restore restored

end Reachable

/-- What holds of every database that a client can hold. -/
structure WellFormed
    (database : Database) :
    Prop where
  names :
    database.names.WellFormed
  /-- Symbols stand among those of their own kind. -/
  sorted :
    ∀ kind, ∀ symbol ∈ database.symbols kind, symbol.kind = kind

end Database

namespace Edit

/-- What adding a function and adding a method have in common. -/
def addCallable
    (text : String)
    (parent : NameHash)
    (result : Option Slot)
    (parameters : List Slot)
    (body : Signature → Body) :
    Edit Handle := do
  let name ← intern text
  let found ← signature result parameters
  addSymbol ⟨name.hash, parent, body found⟩

/-- An edit keeps a property of databases, whether or not it succeeds. -/
def Preserves
    {α : Type}
    (property : Database → Prop)
    (edit : Edit α) :
    Prop :=
  ∀ database, property database → property (edit database).2

/-- An edit followed by another runs the other on what the first one left. -/
theorem bind_apply
    {α β : Type}
    (first : Edit α)
    (next : α → Edit β)
    (database : Database) :
    (first >>= next) database =
      match first database with
      | (.ok result, changed) =>
          next result changed
      | (.error error, changed) =>
          (.error error, changed) := by
  simp only [Bind.bind, ExceptT.bind, ExceptT.mk, StateT.bind]
  rcases first database with ⟨result | result, changed⟩ <;> rfl

/-- An edit followed by another answers what the other one answers behind it. -/
theorem exists_of_bind_eq_ok
    {α β : Type}
    {first : Edit α}
    {next : α → Edit β}
    {database later : Database}
    {result : β}
    (answered : (first >>= next) database = (.ok result, later)) :
    ∃ found changed,
      first database = (.ok found, changed) ∧ next found changed = (.ok result, later) := by
  rw [bind_apply] at answered
  rcases ran : first database with ⟨error | found, changed⟩ <;> rw [ran] at answered
  · cases answered
  · exact ⟨found, changed, rfl, answered⟩

namespace Preserves

variable {α β : Type} {property : Database → Prop}

/-- Answering without an effect keeps every property. -/
theorem pure
    (result : α) :
    Preserves property (Pure.pure result : Edit α) :=
  fun _ holds => holds

/-- Reading the database keeps every property. -/
theorem get :
    Preserves property (MonadState.get : Edit Database) :=
  fun _ holds => holds

/-- An edit followed by another keeps what both keep. -/
theorem bind
    {first : Edit α}
    {next : α → Edit β}
    (firstKeeps : Preserves property first)
    (nextKeeps : ∀ result, Preserves property (next result)) :
    Preserves property (first >>= next) := by
  intro database holds
  have kept := firstKeeps database holds
  rw [Edit.bind_apply]
  rcases answered : first database with ⟨result | result, changed⟩
  · simpa [answered] using kept
  · exact nextKeeps result changed (by simpa [answered] using kept)

/-- Forgetting the result of an edit changes nothing else. -/
theorem discard
    {edit : Edit α}
    (keeps : Preserves property edit) :
    Preserves property (Functor.discard edit) :=
  keeps.bind fun _ => Preserves.pure ()

/-- Running an edit for each entry of a list keeps what each run keeps. -/
theorem forM
    {entries : List α}
    {edit : α → Edit PUnit}
    (keeps : ∀ entry, Preserves property (edit entry)) :
    Preserves property (entries.forM edit) := by
  induction entries with
  | nil =>
      exact Preserves.pure _
  | cons entry rest inductionHypothesis =>
      exact (keeps entry).bind fun _ => inductionHypothesis

/-- Collecting the results of an edit over a list keeps what each run keeps. -/
theorem mapM
    {entries : List α}
    {edit : α → Edit β}
    (keeps : ∀ entry, Preserves property (edit entry)) :
    Preserves property (entries.mapM edit) := by
  induction entries with
  | nil =>
      exact Preserves.pure _
  | cons entry rest inductionHypothesis =>
      rw [List.mapM_cons]
      exact (keeps entry).bind fun _ =>
        inductionHypothesis.bind fun _ => Preserves.pure _

/-- A step on the names keeps what it keeps of every table that it answers. -/
theorem withNames
    {step : NameTable → Except Error (Name × NameTable)}
    (keeps :
      ∀ database name names,
        property database →
        step database.names = .ok (name, names) →
        property { database with names := names }) :
    Preserves property (Edit.withNames step) := by
  intro database holds
  unfold Edit.withNames
  split
  next name names stepped =>
    exact keeps database name names holds stepped
  next =>
    exact holds

/-- Binding a text that may be missing keeps what binding a text keeps. -/
theorem internOptional
    (interns : ∀ text, Preserves property (Edit.intern text))
    (text : Option String) :
    Preserves property (Edit.internOptional text) := by
  cases text with
  | none =>
      exact fun _ holds => holds
  | some text =>
      exact interns text

/-- Adding a named symbol keeps what interning its name and adding it keep. -/
theorem addNamed
    (interns : ∀ text, Preserves property (Edit.intern text))
    {parent : NameHash}
    {body : Body}
    (adds : ∀ name, Preserves property (Edit.addSymbol ⟨name, parent, body⟩))
    (text : String) :
    Preserves property (Edit.addNamed text parent body) :=
  (interns text).bind fun name => adds name.hash

/-- Adding the base types keeps what adding named symbols and marking keep. -/
theorem addBaseTypes
    (named :
      ∀ text size,
        Preserves property (Edit.addNamed text NameHash.absent (.type size)))
    (marks : Preserves property Edit.markBaseTypes) :
    Preserves property Edit.addBaseTypes := by
  have seeds :
      Preserves property
        (Edit.baseTypes.forM fun entry =>
          Functor.discard (Edit.addType entry.1 NameHash.absent entry.2)) :=
    Preserves.forM fun entry => (named entry.1 entry.2).discard
  unfold Edit.addBaseTypes
  refine Preserves.get.bind fun database => ?_
  by_cases seeded : database.hasBaseTypes = true
  · simp only [seeded, ↓reduceIte]
    exact Preserves.pure _
  · simp only [seeded]
    exact seeds.bind fun _ => marks

/-- Adding a class keeps what interning its names and adding it keep. -/
theorem addRecord
    (interns : ∀ text, Preserves property (Edit.intern text))
    {parent : NameHash}
    {size : UInt32}
    (adds :
      ∀ name base, Preserves property (Edit.addSymbol ⟨name, parent, .record size base⟩))
    (text : String)
    (base : Option String) :
    Preserves property (Edit.addRecord text parent size base) := by
  unfold Edit.addRecord
  refine (interns text).bind fun name => ?_
  refine (internOptional interns base).bind fun baseName => ?_
  exact adds name.hash baseName.hash

/-- Building a slot keeps what interning keeps. -/
theorem valueSlot
    (interns : ∀ text, Preserves property (Edit.intern text))
    (text type : String) :
    Preserves property (Edit.valueSlot text type) := by
  unfold Edit.valueSlot
  refine (interns text).bind fun name => ?_
  refine (interns type).bind fun typeName => ?_
  exact Preserves.pure _

/-- Computing a signature keeps everything. -/
theorem signature
    (result : Option Slot)
    (parameters : List Slot) :
    Preserves property (Edit.signature result parameters) := by
  unfold Edit.signature
  exact Preserves.get.bind fun _ => Preserves.pure _

/-- Adding a function or a method keeps what interning its name and adding it keep. -/
theorem addCallable
    (interns : ∀ text, Preserves property (Edit.intern text))
    {parent : NameHash}
    {body : Signature → Body}
    (adds :
      ∀ name signature,
        Preserves property (Edit.addSymbol ⟨name, parent, body signature⟩))
    (text : String)
    (result : Option Slot)
    (parameters : List Slot) :
    Preserves property (Edit.addCallable text parent result parameters body) := by
  refine (interns text).bind fun name => ?_
  refine (signature result parameters).bind fun found => ?_
  exact adds name.hash found

/-- Adding an instantiated template keeps what interning its names and adding it keep. -/
theorem addInstantiation
    (interns : ∀ text, Preserves property (Edit.intern text))
    {parent : NameHash}
    {size : UInt32}
    (adds :
      ∀ name arguments,
        Preserves property (Edit.addSymbol ⟨name, parent, .instantiation size arguments⟩))
    (text : String)
    (arguments : List (String × Bool)) :
    Preserves property (Edit.addInstantiation text parent size arguments) := by
  have internsArgument :
      ∀ argument, Preserves property (Edit.internArgument argument) := by
    intro argument
    unfold Edit.internArgument
    exact (interns argument.1).bind fun _ => Preserves.pure _
  unfold Edit.addInstantiation
  refine (interns text).bind fun name => ?_
  refine (Preserves.mapM internsArgument).bind fun found => ?_
  exact adds name.hash found

end Preserves

/-- Adding a symbol answers its handle and changes the store only. -/
theorem addSymbol_eq
    (symbol : Symbol)
    (database : Database) :
    addSymbol symbol database =
      ( .ok (database.store.add symbol).1.1,
        { database with store := (database.store.add symbol).2 } ) :=
  rfl

end Edit

/-- The kind of the symbols that an operation adds, if it adds any. -/
def Change.addedKind? : Change → Option Kind
  | .intern _ | .setSource _ | .valueSlot _ _ =>
      none
  | .addSymbol symbol =>
      some symbol.kind
  | .addScope _ _ =>
      some .scope
  | .addBaseTypes | .addType _ _ _ =>
      some .type
  | .addRecord _ _ _ _ =>
      some .record
  | .addEnumeration _ _ _ =>
      some .enumeration
  | .addEnumerator _ _ _ =>
      some .enumerator
  | .addField _ _ =>
      some .field
  | .addFunction _ _ _ _ =>
      some .function
  | .addMethod _ _ _ _ =>
      some .method
  | .addTemplate _ _ =>
      some .template
  | .addInstantiation _ _ _ _ =>
      some .instantiation

/--
Whatever interning, labelling, marking and adding symbols of its kind keep is kept by an
operation, since all operations are made of these four.  Only adding the base types marks.
-/
theorem Change.preserves_of_addedKind
    {property : Database → Prop}
    (change : Change)
    (interns : ∀ text, Edit.Preserves property (Edit.intern text))
    (adds :
      ∀ symbol,
        change.addedKind? = some symbol.kind →
          Edit.Preserves property (Edit.addSymbol symbol))
    (labels : ∀ source, Edit.Preserves property (Edit.setSource source))
    (marks : change = .addBaseTypes → Edit.Preserves property Edit.markBaseTypes) :
    Edit.Preserves property change.edit := by
  cases change with
  | intern text =>
      exact (Edit.Preserves.internOptional interns text).discard
  | setSource source =>
      exact labels source
  | addBaseTypes =>
      refine Edit.Preserves.addBaseTypes (fun text size => ?_) (marks rfl)
      exact Edit.Preserves.addNamed interns (fun name => adds _ rfl) text
  | addSymbol symbol =>
      exact (adds symbol rfl).discard
  | addField parent slot =>
      exact (adds ⟨slot.name, parent, .field slot⟩ rfl).discard
  | addScope text | addType text | addEnumeration text | addEnumerator text
  | addTemplate text =>
      exact (Edit.Preserves.addNamed interns (fun name => adds _ rfl) text).discard
  | addRecord text parent size base =>
      exact
        (Edit.Preserves.addRecord interns (fun name base => adds _ rfl) text base).discard
  | valueSlot text type =>
      exact (Edit.Preserves.valueSlot interns text type).discard
  | addFunction text parent result parameters | addMethod text parent result parameters =>
      exact
        (Edit.Preserves.addCallable interns (fun name signature => adds _ rfl) text result
          parameters).discard
  | addInstantiation text parent size arguments =>
      exact
        (Edit.Preserves.addInstantiation interns (fun name arguments => adds _ rfl) text
          arguments).discard

/-- What interning, adding, labelling and marking keep is kept by every operation. -/
theorem Change.preserves
    {property : Database → Prop}
    (interns : ∀ text, Edit.Preserves property (Edit.intern text))
    (adds : ∀ symbol, Edit.Preserves property (Edit.addSymbol symbol))
    (labels : ∀ source, Edit.Preserves property (Edit.setSource source))
    (marks : Edit.Preserves property Edit.markBaseTypes)
    (change : Change) :
    Edit.Preserves property change.edit :=
  change.preserves_of_addedKind interns (fun symbol _ => adds symbol) labels
    fun _ => marks

namespace Store

/-- Adding a symbol leaves a store alone or puts the symbol at the end of its kind. -/
theorem add_store
    (store : Store)
    (symbol : Symbol) :
    (store.add symbol).2 = store ∨ (store.add symbol).2 = store.push symbol := by
  unfold add
  simp only
  split
  · exact Or.inl rfl
  · exact Or.inr rfl

/-- A store made of symbols keeps every symbol among those of its own kind. -/
theorem kind_of_mem_ofSymbols
    {added : List Symbol}
    {kind : Kind}
    {symbol : Symbol}
    (member : symbol ∈ (ofSymbols added).symbols kind) :
    symbol.kind = kind := by
  rw [symbols_ofSymbols] at member
  simpa using (List.mem_filter.mp member).2

end Store

namespace Snapshot

/-- Names that could be restored make a well-formed table. -/
theorem wellFormed_of_restoreNames
    {table restored : NameTable}
    (wellFormed : table.WellFormed)
    {names : List Name}
    (success : restoreNames table names = .ok restored) :
    restored.WellFormed := by
  induction names generalizing table with
  | nil =>
      cases success
      exact wellFormed
  | cons name rest inductionHypothesis =>
      simp only [restoreNames] at success
      cases bound : table.restore name with
      | error error =>
          simp [bound] at success
      | ok result =>
          simp only [bound] at success
          exact inductionHypothesis (wellFormed.restore bound) success

/-- What a snapshot restores to, with the steps that succeeded on the way. -/
theorem restore_eq_ok
    {snapshot : Snapshot}
    {database : Database}
    (restored : snapshot.restore = .ok database) :
    ∃ symbols,
      restoreNames NameTable.empty snapshot.names = .ok database.names ∧
        restoreSymbols database.names snapshot.records = .ok symbols ∧
        database.store = Store.ofSymbols symbols := by
  unfold restore at restored
  split at restored
  · cases namesRestored : restoreNames NameTable.empty snapshot.names with
    | error error =>
        simp [namesRestored] at restored
    | ok names =>
        cases symbolsRestored : restoreSymbols names snapshot.records with
        | error error =>
            simp [namesRestored, symbolsRestored] at restored
        | ok symbols =>
            simp only [namesRestored, symbolsRestored, Except.ok.injEq] at restored
            subst restored
            exact ⟨symbols, rfl, symbolsRestored, rfl⟩
  · cases restored

end Snapshot

namespace Database

namespace WellFormed

/-- The names of well-formed databases all have their own hashes. -/
theorem names_genuine
    {inputs : List Database}
    (wellFormed : ∀ input ∈ inputs, input.WellFormed) :
    ∀ name ∈ inputs.flatMap fun input => input.names.names,
      name.hash = NameHash.ofText name.text := by
  intro name member
  obtain ⟨input, inputMember, listed⟩ := List.mem_flatMap.mp member
  exact (wellFormed input inputMember).names.hashGenuine name listed

/-- The database without names and symbols is well formed. -/
theorem empty :
    Database.empty.WellFormed where
  names :=
    NameTable.WellFormed.empty
  sorted kind symbol member := by
    simp [Database.empty, Database.symbols] at member

/-- Every operation keeps a database well formed. -/
theorem change
    (change : Change)
    {database : Database}
    (wellFormed : database.WellFormed) :
    (change.apply database).WellFormed := by
  refine Change.preserves ?_ ?_ ?_ ?_ change database wellFormed
  · intro text
    apply Edit.Preserves.withNames
    intro database name names holds interned
    exact ⟨holds.names.intern interned, holds.sorted⟩
  · intro symbol database holds
    refine ⟨holds.names, ?_⟩
    intro kind listed member
    rw [Edit.addSymbol_eq] at member
    rcases database.store.add_store symbol with same | pushed
    · simp only [Database.symbols, same] at member
      exact holds.sorted kind listed member
    · simp only [Database.symbols, pushed, Store.symbols_push] at member
      split at member
      next sameKind =>
        rcases List.mem_append.mp member with old | new
        · exact holds.sorted kind listed old
        · obtain rfl : listed = symbol := by
            simpa using new
          exact sameKind.symm
      next =>
        exact holds.sorted kind listed member
  · intro source database holds
    exact ⟨holds.names, holds.sorted⟩
  · intro database holds
    exact ⟨holds.names, holds.sorted⟩

/-- Absorbing a database keeps a database well formed, even on failure. -/
theorem absorb
    {accumulated input : Database}
    (wellFormed : accumulated.WellFormed)
    (inputWellFormed : input.WellFormed) :
    (Edit.absorb input accumulated).2.WellFormed := by
  have namesKept :=
    wellFormed.names.absorb inputWellFormed.names.hashGenuine
  unfold Edit.absorb
  rcases absorbed : accumulated.names.absorb input.names.names with
    ⟨result | result, names⟩
  · rw [absorbed] at namesKept
    exact ⟨namesKept, wellFormed.sorted⟩
  · rw [absorbed] at namesKept
    exact ⟨namesKept, fun _ _ member => Store.kind_of_mem_ofSymbols member⟩

theorem of_absorb
    {accumulated input extended : Database}
    {answer : Except Error (List Conflict)}
    (wellFormed : accumulated.WellFormed)
    (inputWellFormed : input.WellFormed)
    (absorbed : Edit.absorb input accumulated = (answer, extended)) :
    extended.WellFormed := by
  have kept := wellFormed.absorb inputWellFormed
  rwa [absorbed] at kept

/-- A merge of well-formed databases is well formed. -/
theorem merge
    {inputs : List Database}
    (wellFormed : ∀ input ∈ inputs, input.WellFormed)
    {outcome : MergeOutcome}
    (merged : Database.merge inputs = .ok outcome) :
    outcome.database.WellFormed := by
  have namesKept :=
    NameTable.WellFormed.empty.absorb (names_genuine wellFormed)
  unfold Database.merge at merged
  rcases absorbed :
      NameTable.empty.absorb (inputs.flatMap fun input => input.names.names) with
    ⟨result | result, names⟩
  · simp [absorbed] at merged
  · rw [absorbed] at namesKept
    simp only [absorbed, Except.ok.injEq] at merged
    subst merged
    exact ⟨namesKept, fun _ _ member => Store.kind_of_mem_ofSymbols member⟩

/-- A database restored from a snapshot is well formed. -/
theorem restore
    {snapshot : Snapshot}
    {database : Database}
    (restored : snapshot.restore = .ok database) :
    database.WellFormed := by
  obtain ⟨symbols, namesRestored, -, storeShape⟩ :=
    Snapshot.restore_eq_ok restored
  refine ⟨Snapshot.wellFormed_of_restoreNames .empty namesRestored, ?_⟩
  intro kind symbol member
  rw [Database.symbols, storeShape] at member
  exact Store.kind_of_mem_ofSymbols member

end WellFormed

/-- Every database that a client can hold is well formed. -/
theorem Reachable.wellFormed
    {database : Database}
    (reachable : database.Reachable) :
    database.WellFormed := by
  induction reachable with
  | empty =>
      exact .empty
  | change change _ inductionHypothesis =>
      exact inductionHypothesis.change change
  | absorb _ _ accumulatedHypothesis inputHypothesis =>
      exact accumulatedHypothesis.absorb inputHypothesis
  | merge _ merged inductionHypothesis =>
      exact .merge inductionHypothesis merged
  | restore restored =>
      exact .restore restored

end Database

end SymbolDatabase
