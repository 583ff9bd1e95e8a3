import SymbolDatabase.Proofs.Names.Refusal
import SymbolDatabase.Proofs.Restore

namespace SymbolDatabase

/-!
# What a failure leaves behind

An operation on one symbol binds all its names before it adds the symbol, and absorbing a
database unites the names before it takes in symbols.  Binding is all that can fail, so a
failure leaves everything stored as it was, with some further names behind the others.  As
long as whatever is stored refers to bound names only, files do not show these names.
-/

namespace Database

/-- Every hash that a stored symbol refers to is bound. -/
def IsResolved
    (database : Database) :
    Prop :=
  ∀ hash ∈ database.references, database.names.contains hash = true

-- Decided along the list of references, as the type of all hashes is finite but too large.
instance
    (database : Database) :
    Decidable database.IsResolved :=
  decidable_of_iff (database.references.all database.names.contains = true) (by
    rw [List.all_eq_true, IsResolved])

/-- A database has some further names, and apart from them what it had before. -/
structure Spares
    (database later : Database)
    (added : List Name) :
    Prop where
  names :
    later.names.names = database.names.names ++ added
  store :
    later.store = database.store
  source :
    later.source = database.source
  hasBaseTypes :
    later.hasBaseTypes = database.hasBaseTypes
  snapshot :
    database.IsResolved → later.snapshot = database.snapshot
  container :
    database.IsResolved → later.toContainer = database.toContainer
  document :
    database.IsResolved → later.toDocument = database.toDocument

variable {database : Database} {names : NameTable} {added : List Name}

/-- Names that are added at the end do not stand for any hash that was bound before. -/
theorem snapshot_of_names
    (resolved : database.IsResolved)
    (shape : names.names = database.names.names ++ added) :
    ({ database with names := names } : Database).snapshot = database.snapshot := by
  have sameFound :
      ∀ hash ∈ database.references,
        names.find? hash = database.names.find? hash := by
    intro hash referenced
    have bound := resolved hash referenced
    obtain ⟨name, found⟩ := Option.isSome_iff_exists.mp bound
    obtain ⟨listed⟩ := names
    simp only at shape
    rw [found, shape, NameTable.find?_append,
      show NameTable.find? ⟨database.names.names⟩ hash = some name from found]
    rfl
  have sameNames :
      ({ database with names := names } : Database).referencedNames =
        database.referencedNames :=
    referencedNames_congr rfl sameFound
  rw [Database.snapshot, Database.snapshot, sameNames]

/-- A database that only gets names spares what it had. -/
theorem spares_of_names
    (shape : names.names = database.names.names ++ added) :
    database.Spares { database with names := names } added where
  names :=
    shape
  store :=
    rfl
  source :=
    rfl
  hasBaseTypes :=
    rfl
  snapshot resolved :=
    snapshot_of_names resolved shape
  container resolved := by
    rw [toContainer, snapshot_of_names resolved shape]
    rfl
  document resolved := by
    rw [toDocument, snapshot_of_names resolved shape]
    rfl

end Database

namespace Edit

variable {α β : Type} {texts others : List String}

/-- Where the name of one of some texts is refused, an edit fails and has only bound names. -/
def RefusesWith
    (texts : List String)
    (edit : Edit α) :
    Prop :=
  ∀ database error names,
    database.names.absorb (Name.ofTexts texts) = (.error error, names) →
      edit database = (.error error, { database with names := names })

/-- An edit binds the names of texts and does nothing else. -/
structure Binds
    (texts : List String)
    (edit : Edit α) :
    Prop where
  refused :
    RefusesWith texts edit
  bound :
    ∀ database names,
      database.names.absorb (Name.ofTexts texts) = (.ok (), names) →
        ∃ result, edit database = (.ok result, { database with names := names })

/-- An edit binds the names of texts first, and fails only where one is refused. -/
structure BindsFirst
    (texts : List String)
    (edit : Edit α) :
    Prop where
  refused :
    RefusesWith texts edit
  succeeds :
    ∀ database names,
      database.names.absorb (Name.ofTexts texts) = (.ok (), names) →
        ∃ result later, edit database = (.ok result, later)

namespace Binds

variable {first : Edit α} {next : α → Edit β}

/-- Behind an edit that binds, what is refused later is refused with all that was bound. -/
theorem refusesWith_bind
    (firstBinds : Binds texts first)
    (nextRefuses : ∀ result, RefusesWith others (next result)) :
    RefusesWith (texts ++ others) (first >>= next) := by
  intro database error names refused
  rw [Name.ofTexts_append, NameTable.absorb_append] at refused
  rw [bind_apply]
  rcases bound : database.names.absorb (Name.ofTexts texts) with ⟨found | found, middle⟩
  · obtain ⟨rfl, rfl⟩ : found = error ∧ middle = names := by
      simpa [bound] using refused
    rw [firstBinds.refused database found middle bound]
  · rw [bound] at refused
    obtain ⟨result, answered⟩ := firstBinds.bound database middle bound
    rw [answered]
    exact nextRefuses result _ error names refused

/-- Behind an edit that binds, the other edit runs on what was bound. -/
theorem bind_apply_of_absorb_ok
    (firstBinds : Binds texts first)
    (next : α → Edit β)
    {database : Database}
    {names : NameTable}
    (united : database.names.absorb (Name.ofTexts (texts ++ others)) = (.ok (), names)) :
    ∃ result middle,
      middle.absorb (Name.ofTexts others) = (.ok (), names) ∧
        (first >>= next) database = next result { database with names := middle } := by
  rw [Name.ofTexts_append, NameTable.absorb_append] at united
  rcases bound : database.names.absorb (Name.ofTexts texts) with ⟨found | found, middle⟩
  · simp [bound] at united
  · rw [bound] at united
    obtain ⟨result, answered⟩ := firstBinds.bound database middle bound
    refine ⟨result, middle, united, ?_⟩
    rw [bind_apply, answered]

/-- Answering binds nothing. -/
theorem pure
    (result : α) :
    Binds [] (Pure.pure result : Edit α) where
  refused database error names refused := by
    simp [Name.ofTexts, NameTable.absorb] at refused
  bound database names bound := by
    obtain rfl : database.names = names := by
      simpa [Name.ofTexts, NameTable.absorb] using bound
    exact ⟨result, rfl⟩

/-- Interning binds the name of one text. -/
theorem intern
    (text : String) :
    Binds [text] (Edit.intern text) where
  refused database error names refused := by
    rw [NameTable.absorb_ofTexts_singleton] at refused
    cases interned : database.names.intern text with
    | ok result =>
        simp [interned] at refused
    | error found =>
        obtain ⟨rfl, rfl⟩ : found = error ∧ database.names = names := by
          simpa [interned] using refused
        exact intern_of_eq_error interned
  bound database names bound := by
    rw [NameTable.absorb_ofTexts_singleton] at bound
    cases interned : database.names.intern text with
    | error found =>
        simp [interned] at bound
    | ok result =>
        obtain ⟨name, extended⟩ := result
        obtain rfl : extended = names := by
          simpa [interned] using bound
        exact ⟨name, intern_of_eq_ok interned⟩

/-- An edit that binds, followed by another one, binds what both bind. -/
theorem bind
    (firstBinds : Binds texts first)
    (nextBinds : ∀ result, Binds others (next result)) :
    Binds (texts ++ others) (first >>= next) where
  refused :=
    firstBinds.refusesWith_bind fun result => (nextBinds result).refused
  bound database names united := by
    obtain ⟨result, middle, restUnited, runs⟩ :=
      firstBinds.bind_apply_of_absorb_ok next united
    rw [runs]
    exact (nextBinds result).bound _ names restUnited

/-- Interning a text that may be missing binds its name, if it is there. -/
theorem internOptional
    (text : Option String) :
    Binds text.toList (Edit.internOptional text) := by
  cases text with
  | none =>
      exact .pure Name.absent
  | some text =>
      exact .intern text

/-- Interning template arguments binds the names of their types in order. -/
theorem internArguments
    (arguments : List (String × Bool)) :
    Binds (arguments.map Prod.fst) (arguments.mapM internArgument) := by
  induction arguments with
  | nil =>
      exact .pure []
  | cons argument rest inductionHypothesis =>
      have here : Binds [argument.1] (internArgument argument) :=
        (intern argument.1).bind fun _ => .pure _
      have others := fun found : TemplateArgument =>
        inductionHypothesis.bind fun found' => Binds.pure (found :: found')
      rw [List.mapM_cons]
      simpa using here.bind others

/-- Building a slot binds its name and its type. -/
theorem valueSlot
    (text type : String) :
    Binds [text, type] (Edit.valueSlot text type) :=
  (intern text).bind fun _ => (intern type).bind fun _ => .pure _

/-- Computing a signature binds nothing. -/
theorem signature
    (result : Option Slot)
    (parameters : List Slot) :
    Binds [] (Edit.signature result parameters) where
  refused database error names refused := by
    simp [Name.ofTexts, NameTable.absorb] at refused
  bound database names bound := by
    obtain rfl : database.names = names := by
      simpa [Name.ofTexts, NameTable.absorb] using bound
    exact ⟨_, rfl⟩

/-- An edit that binds names binds them first. -/
theorem bindsFirst
    (binds : Binds texts first) :
    BindsFirst texts first where
  refused :=
    binds.refused
  succeeds database names united := by
    obtain ⟨result, answered⟩ := binds.bound database names united
    exact ⟨result, _, answered⟩

/-- What an edit binds comes before what the next one binds first. -/
theorem bind_bindsFirst
    (firstBinds : Binds texts first)
    (nextBinds : ∀ result, BindsFirst others (next result)) :
    BindsFirst (texts ++ others) (first >>= next) where
  refused :=
    firstBinds.refusesWith_bind fun result => (nextBinds result).refused
  succeeds database names united := by
    obtain ⟨result, middle, restUnited, runs⟩ :=
      firstBinds.bind_apply_of_absorb_ok next united
    rw [runs]
    exact (nextBinds result).succeeds _ names restUnited

end Binds

namespace BindsFirst

/-- An edit that never fails binds nothing first. -/
theorem of_succeeds
    {edit : Edit α}
    (succeeds : ∀ database, ∃ result later, edit database = (.ok result, later)) :
    BindsFirst [] edit where
  refused database error names refused := by
    simp [Name.ofTexts, NameTable.absorb] at refused
  succeeds database _ _ :=
    succeeds database

/-- Adding a symbol never fails. -/
theorem addSymbol
    (symbol : Symbol) :
    BindsFirst [] (Edit.addSymbol symbol) :=
  of_succeeds fun database => ⟨_, _, addSymbol_eq symbol database⟩

/-- Forgetting the result of an edit changes nothing else. -/
theorem discard
    {edit : Edit α}
    (binds : BindsFirst texts edit) :
    BindsFirst texts (Functor.discard edit) where
  refused database error names refused := by
    show (edit >>= fun _ => Pure.pure ()) database = _
    rw [bind_apply, binds.refused database error names refused]
  succeeds database names united := by
    obtain ⟨result, later, answered⟩ := binds.succeeds database names united
    refine ⟨(), later, ?_⟩
    show (edit >>= fun _ => Pure.pure ()) database = _
    rw [bind_apply, answered]
    rfl

/-- Adding a named symbol binds its name first. -/
theorem addNamed
    (text : String)
    (parent : NameHash)
    (body : Body) :
    BindsFirst [text] (Edit.addNamed text parent body) :=
  (Binds.intern text).bind_bindsFirst fun _ => addSymbol _

/-- Adding a function or a method binds its name first. -/
theorem addCallable
    (text : String)
    (parent : NameHash)
    (result : Option Slot)
    (parameters : List Slot)
    (body : Signature → Body) :
    BindsFirst [text] (Edit.addCallable text parent result parameters body) :=
  (Binds.intern text).bind_bindsFirst fun _ =>
    (Binds.signature result parameters).bind_bindsFirst fun _ => addSymbol _

/-- Adding a class binds its name and that of its base class first. -/
theorem addRecord
    (text : String)
    (parent : NameHash)
    (size : UInt32)
    (base : Option String) :
    BindsFirst (text :: base.toList) (Edit.addRecord text parent size base) := by
  have binds :=
    (Binds.intern text).bind_bindsFirst fun name =>
      (Binds.internOptional base).bind_bindsFirst fun baseName =>
        addSymbol ⟨name.hash, parent, .record size baseName.hash⟩
  rw [List.append_nil] at binds
  exact binds

/-- Adding an instantiated template binds its name and those of its arguments first. -/
theorem addInstantiation
    (text : String)
    (parent : NameHash)
    (size : UInt32)
    (arguments : List (String × Bool)) :
    BindsFirst (text :: arguments.map Prod.fst)
      (Edit.addInstantiation text parent size arguments) := by
  have binds :=
    (Binds.intern text).bind_bindsFirst fun name =>
      (Binds.internArguments arguments).bind_bindsFirst fun found =>
        addSymbol ⟨name.hash, parent, .instantiation size found⟩
  rw [List.append_nil] at binds
  exact binds

end BindsFirst

end Edit

namespace Change

/-- The texts that an operation interns, in order. -/
def texts : Change → List String
  | .intern text =>
      text.toList
  | .setSource _ | .addSymbol _ | .addField _ _ =>
      []
  | .addBaseTypes =>
      Edit.baseTypes.map Prod.fst
  | .addScope text _ | .addType text _ _ | .addEnumeration text _ _
  | .addEnumerator text _ _ | .addFunction text _ _ _ | .addMethod text _ _ _
  | .addTemplate text _ =>
      [text]
  | .addRecord text _ _ base =>
      text :: base.toList
  | .valueSlot text type =>
      [text, type]
  | .addInstantiation text _ _ arguments =>
      text :: arguments.map Prod.fst

/--
Every operation binds all its names before it does anything else.  Only adding the base
types adds one symbol before it binds the name of the next.
-/
theorem bindsFirst
    {change : Change}
    (single : change ≠ .addBaseTypes) :
    change.edit.BindsFirst change.texts := by
  cases change with
  | intern text =>
      exact (Edit.Binds.internOptional text).bindsFirst.discard
  | setSource source =>
      exact .of_succeeds fun database => ⟨(), _, rfl⟩
  | addBaseTypes =>
      exact (single rfl).elim
  | addSymbol symbol =>
      exact (Edit.BindsFirst.addSymbol symbol).discard
  | addField parent slot =>
      exact (Edit.BindsFirst.addSymbol _).discard
  | addScope | addType | addEnumeration | addEnumerator | addTemplate =>
      exact (Edit.BindsFirst.addNamed _ _ _).discard
  | addRecord text parent size base =>
      exact (Edit.BindsFirst.addRecord text parent size base).discard
  | valueSlot text type =>
      exact (Edit.Binds.valueSlot text type).bindsFirst.discard
  | addFunction text parent result parameters =>
      exact (Edit.BindsFirst.addCallable text parent result parameters .function).discard
  | addMethod text parent result parameters =>
      exact (Edit.BindsFirst.addCallable text parent result parameters .method).discard
  | addInstantiation text parent size arguments =>
      exact (Edit.BindsFirst.addInstantiation text parent size arguments).discard

/-- An operation that fails met a name that is refused, and left the others it bound. -/
theorem exists_refused
    {change : Change}
    (single : change ≠ .addBaseTypes)
    {database : Database}
    {error : Error}
    (failed : (change.edit database).1 = .error error) :
    ∃ names,
      database.names.absorb (Name.ofTexts change.texts) = (.error error, names) ∧
        change.apply database = { database with names := names } := by
  have binds := bindsFirst single
  rcases united : database.names.absorb (Name.ofTexts change.texts) with ⟨found | found, names⟩
  · have answered := binds.refused database found names united
    rw [answered] at failed
    obtain rfl : found = error := Except.error.inj failed
    exact ⟨names, rfl, congrArg Prod.snd answered⟩
  · obtain ⟨result, later, answered⟩ := binds.succeeds database names united
    rw [answered] at failed
    cases failed

end Change

/--
A call that fails damages nothing that is stored.  An operation on one symbol leaves the
database as it was, with the new ones among the names behind it that the operation bound
before the name that was refused.  Absorbing a database leaves those of its names that
were new and stand before the first one whose hash the accumulated names bind to another
text, and reports that hash and both texts.  If what is stored refers to bound names only,
the snapshot and both files stay as they were.
-/
theorem failure_spares_stored
    {database : Database}
    (reachable : database.Reachable) :
    (∀ (change : Change) (error : Error),
      change ≠ .addBaseTypes →
      (change.edit database).1 = .error error →
        ∃ front name rest,
          Name.ofTexts change.texts = front ++ name :: rest ∧
            database.Spares (change.apply database) (database.names.additions front) ∧
            (change.apply database).names.Refuses name.text ∧
            error =
              .nameCollision name.hash
                ((change.apply database).names.resolve name.hash).text name.text) ∧
      ∀ (input : Database) (error : Error),
        input.Reachable →
        (Edit.absorb input database).1 = .error error →
          ∃ front name rest existing,
            input.names.names = front ++ name :: rest ∧
              (∀ earlier ∈ front, ∀ held ∈ database.names.names,
                held.hash = earlier.hash → held.text = earlier.text) ∧
              (existing ∈ database.names.names ∧ existing.hash = name.hash ∧
                existing.text ≠ name.text) ∧
              error = .nameCollision name.hash existing.text name.text ∧
              database.Spares (Edit.absorb input database).2
                (front.filter fun earlier => earlier ∉ database.names.names) := by
  have wellFormed := reachable.wellFormed.names
  constructor
  · intro change error single failed
    obtain ⟨names, refused, left⟩ := Change.exists_refused single failed
    obtain ⟨front, name, rest, shape, frontAbsorbed, nameRefused⟩ :=
      NameTable.absorb_eq_error refused
    have genuine :
        ∀ listed ∈ front ++ name :: rest, listed.hash = NameHash.ofText listed.text := by
      rw [← shape]
      exact fun listed member => Name.genuine_of_mem_ofTexts member
    have laterWellFormed : names.WellFormed := by
      have kept := wellFormed.absorb fun listed member =>
        genuine listed (List.mem_append_left _ member)
      rwa [frontAbsorbed] at kept
    obtain ⟨refuses, reported⟩ :=
      laterWellFormed.refuses_of_bind_error (genuine name (by simp)) nameRefused
    rw [left]
    exact ⟨front, name, rest, shape,
      Database.spares_of_names (wellFormed.names_of_absorb frontAbsorbed), refuses, reported⟩
  · intro input error inputReachable failed
    rcases united : database.names.absorb input.names.names with ⟨found | found, names⟩
    · rw [Edit.absorb_of_absorb_error united] at failed ⊢
      obtain rfl : found = error := Except.error.inj failed
      obtain ⟨front, name, rest, existing, shape, agrees, inTheWay, reported, added⟩ :=
        wellFormed.absorb_eq_error inputReachable.wellFormed.names united
      exact ⟨front, name, rest, existing, shape, agrees, inTheWay, reported,
        Database.spares_of_names added⟩
    · obtain ⟨conflicts, extended, absorbed, -⟩ :=
        Edit.absorb_of_absorb_ok reachable.wellFormed inputReachable.wellFormed united
      rw [absorbed] at failed
      cases failed

/-- Two texts with one hash. -/
def collidingTexts : String × String :=
  ("NIOHKPBBPHAAPAIF::Renderer::draw", "FOAOGMDFOIJKKILE::Renderer::draw")

/-- A unit with a type that has the first of the texts. -/
def firstTextUnit : Database :=
  (Change.addType collidingTexts.1 0 8).apply Database.empty

/-- A unit with a type, and behind it one that has the second of the texts. -/
def secondTextUnit : Database :=
  (Change.addType collidingTexts.2 0 8).apply
    ((Change.addType "int" 0 4).apply Database.empty)

/-- An instantiated template, the second argument of which has the second of the texts. -/
def secondTextArgument : Change :=
  .addInstantiation "Pair" 0 16 [("int", false), (collidingTexts.2, true), ("float", false)]

/-- The template and the other unit are refused, and the first unit is saved as before. -/
theorem failure_spares_stored_collidingTexts :
    ∃ error added otherError otherAdded,
      (secondTextArgument.edit firstTextUnit).1 = .error error ∧
        firstTextUnit.Spares (secondTextArgument.apply firstTextUnit) added ∧
        added.map Name.text = ["Pair", "int"] ∧
        (Edit.absorb secondTextUnit firstTextUnit).1 = .error otherError ∧
        firstTextUnit.Spares (Edit.absorb secondTextUnit firstTextUnit).2 otherAdded ∧
        otherAdded.map Name.text = ["int"] ∧
        firstTextUnit.IsResolved := by
  have reachable : firstTextUnit.Reachable :=
    .change _ .empty
  have inputReachable : secondTextUnit.Reachable :=
    .change _ (.change _ .empty)
  obtain ⟨error, failed⟩ :
      ∃ error, (secondTextArgument.edit firstTextUnit).1 = .error error :=
    ⟨.nameCollision (NameHash.ofText collidingTexts.2) collidingTexts.1 collidingTexts.2,
      by decide +kernel⟩
  obtain ⟨otherError, otherFailed⟩ :
      ∃ error, (Edit.absorb secondTextUnit firstTextUnit).1 = .error error :=
    ⟨.nameCollision (NameHash.ofText collidingTexts.2) collidingTexts.1 collidingTexts.2,
      by decide +kernel⟩
  obtain ⟨front, name, rest, -, spares, -⟩ :=
    (failure_spares_stored reachable).1 secondTextArgument error (by decide) failed
  obtain ⟨otherFront, otherName, otherRest, existing, -, -, -, -, otherSpares⟩ :=
    (failure_spares_stored reachable).2 secondTextUnit otherError inputReachable otherFailed
  refine ⟨error, _, otherError, _, failed, spares, ?_, otherFailed, otherSpares, ?_, ?_⟩
  · have names := congrArg (List.map Name.text) spares.names
    rw [List.map_append] at names
    refine List.append_cancel_left (names.symm.trans ?_)
    decide +kernel
  · have names := congrArg (List.map Name.text) otherSpares.names
    rw [List.map_append] at names
    refine List.append_cancel_left (names.symm.trans ?_)
    decide +kernel
  · decide +kernel

end SymbolDatabase
