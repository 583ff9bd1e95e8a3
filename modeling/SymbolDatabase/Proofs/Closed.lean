import SymbolDatabase.Proofs.Merge.Reload
import SymbolDatabase.Proofs.Names.Lifetime

namespace SymbolDatabase

/-!
# Closed databases

An identifier is computed once, under the names of that moment, and a type that is not
bound is spelled as the empty text.  Once such a type is bound, the identifier is no longer
the one that the slots determine.  A database is closed if this cannot happen any more: all
identifiers are the ones that the slots determine, and all types of the slots are bound.
Every way of changing, merging or keeping databases leads from closed ones to closed ones,
as long as functions and methods are added with bound types.
-/

/-- The result and the parameters of a signature. -/
def Signature.slots
    (signature : Signature) :
    List Slot :=
  signature.result.toList ++ signature.parameters

namespace Slot

variable {slot : Slot} {names later : NameTable}

/-- The type of a slot is absent or bound. -/
def IsClosed
    (slot : Slot)
    (names : NameTable) :
    Prop :=
  slot.type = NameHash.absent ∨ names.contains slot.type = true

instance
    (slot : Slot)
    (names : NameTable) :
    Decidable (slot.IsClosed names) :=
  inferInstanceAs (Decidable (_ ∨ _))

/-- Where the type stays bound, a slot stays closed, and its type resolves as before. -/
theorem IsClosed.of_find?
    (closed : slot.IsClosed names)
    (wellFormed : names.WellFormed)
    (laterWellFormed : later.WellFormed)
    (keeps :
      slot.type ≠ NameHash.absent →
        ∀ name, names.find? slot.type = some name → later.find? slot.type = some name) :
    slot.IsClosed later ∧ later.resolve slot.type = names.resolve slot.type := by
  by_cases isAbsent : slot.type = NameHash.absent
  · refine ⟨.inl isAbsent, ?_⟩
    rw [isAbsent, wellFormed.resolve_absent, laterWellFormed.resolve_absent]
  · have bound := closed.resolve_left isAbsent
    obtain ⟨name, found⟩ := Option.isSome_iff_exists.mp bound
    have foundLater := keeps isAbsent name found
    rw [IsClosed, NameTable.contains, NameTable.resolve, NameTable.resolve, found,
      foundLater]
    exact ⟨.inr rfl, rfl⟩

end Slot

namespace Symbol

variable {symbol : Symbol} {names later : NameTable}

/--
A callable has the identifier that its slots determine, and the types of its slots are
absent or bound.
-/
def IsClosed
    (symbol : Symbol)
    (names : NameTable) :
    Prop :=
  ∀ signature,
    symbol.signature? = some signature →
      signature.identifier =
          Signature.identify names signature.result signature.parameters ∧
        ∀ slot ∈ signature.slots, slot.IsClosed names

/-- Only functions and methods have a signature. -/
theorem signature?_eq_none_iff :
    symbol.signature? = none ↔ symbol.kind.isCallable = false := by
  obtain ⟨name, parent, body⟩ := symbol
  cases body <;> simp [signature?, Body.signature?, kind, Body.kind, Kind.isCallable]

theorem isClosed_of_signature?_eq_none
    (noSignature : symbol.signature? = none) :
    symbol.IsClosed names := by
  intro signature callable
  rw [noSignature] at callable
  cases callable

/-- Where the names that it refers to stay bound, a symbol stays closed. -/
theorem IsClosed.of_find?
    (closed : symbol.IsClosed names)
    (wellFormed : names.WellFormed)
    (laterWellFormed : later.WellFormed)
    (keeps :
      ∀ hash ∈ symbol.references,
        ∀ name, names.find? hash = some name → later.find? hash = some name) :
    symbol.IsClosed later := by
  intro signature callable
  obtain ⟨genuine, slotsClosed⟩ := closed signature callable
  have slotsKept :
      ∀ slot ∈ signature.slots,
        slot.IsClosed later ∧ later.resolve slot.type = names.resolve slot.type := by
    intro slot member
    refine (slotsClosed slot member).of_find? wellFormed laterWellFormed fun present => ?_
    exact keeps slot.type (type_mem_references callable member present)
  refine ⟨?_, fun slot member => (slotsKept slot member).1⟩
  rw [genuine]
  exact Signature.identify_congr fun slot member => (slotsKept slot member).2.symm

end Symbol

namespace Edit

variable {text : String} {parent : NameHash} {result : Option Slot} {parameters : List Slot}
  {body : Signature → Body} {database : Database}

/-- A signature is computed under the names at hand. -/
theorem signature_eq
    (result : Option Slot)
    (parameters : List Slot)
    (database : Database) :
    Edit.signature result parameters database =
      (.ok (Signature.ofSlots database.names result parameters), database) :=
  rfl

/-- A function or method is added with its signature under the names with its own name. -/
theorem addCallable_of_eq_ok
    {name : Name}
    {names : NameTable}
    (interned : database.names.intern text = .ok (name, names)) :
    addCallable text parent result parameters body database =
      Edit.addSymbol
        ⟨name.hash, parent, body (Signature.ofSlots names result parameters)⟩
        { database with names := names } := by
  simp only [addCallable, bind_apply, intern_of_eq_ok interned, signature_eq]

/-- Without a name, no function or method is added. -/
theorem addCallable_of_eq_error
    {error : Error}
    (refused : database.names.intern text = .error error) :
    addCallable text parent result parameters body database = (.error error, database) := by
  simp only [addCallable, bind_apply, intern_of_eq_error refused]

end Edit

/-- The slots that an operation makes a signature of. -/
def Change.slots : Change → List Slot
  | .addFunction _ _ result parameters | .addMethod _ _ result parameters =>
      result.toList ++ parameters
  | _ =>
      []

/--
An operation brings no identifier along, and makes signatures only of slots the types of
which are absent or bound.
-/
def Change.IsClosed
    (change : Change)
    (names : NameTable) :
    Prop :=
  (match change with
    | .addSymbol symbol =>
        symbol.signature? = none
    | _ =>
        True) ∧
    ∀ slot ∈ change.slots, slot.IsClosed names

instance
    (change : Change)
    (names : NameTable) :
    Decidable (change.IsClosed names) :=
  match change with
  | .addSymbol symbol =>
      inferInstanceAs (Decidable (symbol.signature? = none ∧ _))
  | .intern _ | .setSource _ | .addBaseTypes | .addScope _ _ | .addType _ _ _
  | .addRecord _ _ _ _ | .addEnumeration _ _ _ | .addEnumerator _ _ _ | .valueSlot _ _
  | .addField _ _ | .addFunction _ _ _ _ | .addMethod _ _ _ _ | .addTemplate _ _
  | .addInstantiation _ _ _ _ =>
      inferInstanceAs (Decidable (True ∧ _))

namespace Database

/-- All identifiers stay the ones that slots determine, whatever names are bound later. -/
structure Closed
    (database : Database) :
    Prop where
  wellFormed :
    database.WellFormed
  symbols :
    ∀ kind, ∀ symbol ∈ database.symbols kind, symbol.IsClosed database.names

namespace Closed

variable {database : Database}

/-- The identifiers of a closed database are genuine. -/
theorem genuine
    (closed : database.Closed) :
    database.Genuine :=
  fun kind symbol member signature callable =>
    (closed.symbols kind symbol member signature callable).1

/-- The database without names and symbols is closed. -/
theorem empty :
    Database.empty.Closed where
  wellFormed :=
    .empty
  symbols kind symbol member := by
    simp [Database.empty, Database.symbols] at member

/-- Binding further names keeps a database closed. -/
theorem of_names
    (closed : database.Closed)
    {names : NameTable}
    (wellFormed : names.WellFormed)
    (grows : database.names.GrowsInto names) :
    ({ database with names := names } : Database).Closed where
  wellFormed :=
    ⟨wellFormed, closed.wellFormed.sorted⟩
  symbols kind symbol member :=
    (closed.symbols kind symbol member).of_find? closed.wellFormed.names wellFormed
      fun _ _ _ => grows.find?_eq_some

theorem intern
    (text : String) :
    Edit.Preserves Database.Closed (Edit.intern text) := by
  apply Edit.Preserves.withNames
  intro database name names closed interned
  exact closed.of_names (closed.wellFormed.names.intern interned) (.of_intern interned)

/-- Adding a closed symbol keeps a database closed. -/
theorem addSymbol
    (closed : database.Closed)
    {symbol : Symbol}
    (symbolClosed : symbol.IsClosed database.names) :
    (Edit.addSymbol symbol database).2.Closed where
  wellFormed :=
    closed.wellFormed.change (.addSymbol symbol)
  symbols kind listed member := by
    rw [Edit.addSymbol_eq] at member ⊢
    rcases database.store.add_store symbol with same | pushed
    · simp only [Database.symbols, same] at member
      exact closed.symbols kind listed member
    · simp only [Database.symbols, pushed, Store.symbols_push] at member
      split at member
      next =>
        rcases List.mem_append.mp member with old | new
        · exact closed.symbols kind listed old
        · rw [List.mem_singleton.mp new]
          exact symbolClosed
      next =>
        exact closed.symbols kind listed member

/-- Operations that add no functions and methods keep a database closed. -/
theorem apply_of_not_callable
    (closed : database.Closed)
    {change : Change}
    (notCallable : ∀ kind, change.addedKind? = some kind → kind.isCallable = false) :
    (change.apply database).Closed := by
  have kept : Edit.Preserves Database.Closed change.edit := by
    refine change.preserves_of_addedKind intern ?adds ?labels ?marks
    case adds =>
      intro symbol isAdded changed changedClosed
      have noSignature := Symbol.signature?_eq_none_iff.mpr (notCallable _ isAdded)
      exact changedClosed.addSymbol (Symbol.isClosed_of_signature?_eq_none noSignature)
    case labels =>
      exact fun source changed changedClosed =>
        ⟨⟨changedClosed.wellFormed.names, changedClosed.wellFormed.sorted⟩,
          changedClosed.symbols⟩
    case marks =>
      exact fun _ changed changedClosed =>
        ⟨⟨changedClosed.wellFormed.names, changedClosed.wellFormed.sorted⟩,
          changedClosed.symbols⟩
  exact kept database closed

/-- Adding a function or a method with bound types keeps a database closed. -/
theorem addCallable
    (closed : database.Closed)
    {result : Option Slot}
    {parameters : List Slot}
    (slotsClosed : ∀ slot ∈ result.toList ++ parameters, slot.IsClosed database.names)
    (text : String)
    (parent : NameHash)
    (body : Signature → Body)
    (carries : ∀ signature, (body signature).signature? = some signature) :
    (Edit.addCallable text parent result parameters body database).2.Closed := by
  cases interned : database.names.intern text with
  | error error =>
      rw [Edit.addCallable_of_eq_error interned]
      exact closed
  | ok bound =>
      obtain ⟨name, names⟩ := bound
      have wellFormed := closed.wellFormed.names.intern interned
      have grows := NameTable.GrowsInto.of_intern interned
      rw [Edit.addCallable_of_eq_ok interned]
      refine (closed.of_names wellFormed grows).addSymbol ?_
      intro signature callable
      obtain rfl : Signature.ofSlots names result parameters = signature :=
        Option.some.inj ((carries _).symm.trans callable)
      refine ⟨rfl, fun slot member => ?_⟩
      exact ((slotsClosed slot member).of_find? closed.wellFormed.names wellFormed
        fun _ _ => grows.find?_eq_some).1

/-- A closed operation keeps a database closed, also if it fails. -/
theorem change
    (closed : database.Closed)
    {change : Change}
    (isClosed : change.IsClosed database.names) :
    (change.apply database).Closed := by
  cases change with
  | addFunction text parent result parameters =>
      rw [Change.apply_of_adding rfl]
      exact closed.addCallable isClosed.2 text parent .function fun _ => rfl
  | addMethod text parent result parameters =>
      rw [Change.apply_of_adding rfl]
      exact closed.addCallable isClosed.2 text parent .method fun _ => rfl
  | addSymbol symbol =>
      refine closed.apply_of_not_callable ?_
      rintro kind ⟨⟩
      exact Symbol.signature?_eq_none_iff.mp isClosed.1
  | intern | setSource | valueSlot =>
      exact closed.apply_of_not_callable (by simp [Change.addedKind?])
  | addBaseTypes | addScope | addType | addRecord | addEnumeration | addEnumerator
  | addField | addTemplate | addInstantiation =>
      refine closed.apply_of_not_callable ?_
      rintro kind ⟨⟩
      rfl

/-- Under the names of a merge, what stands in a closed input is closed. -/
theorem isClosed_merged
    {inputs : List Database}
    {outcome : MergeOutcome}
    (closed : ∀ input ∈ inputs, input.Closed)
    (merged : Database.merge inputs = .ok outcome)
    {input : Database}
    (inputMember : input ∈ inputs)
    {kind : Kind}
    {symbol : Symbol}
    (member : symbol ∈ input.symbols kind) :
    symbol.IsClosed outcome.database.names := by
  have mergedWellFormed : outcome.database.WellFormed :=
    .merge (fun other otherMember => (closed other otherMember).wellFormed) merged
  have inputClosed := closed input inputMember
  exact (inputClosed.symbols kind symbol member).of_find? inputClosed.wellFormed.names
    mergedWellFormed.names fun _ _ _ => Merge.find?_merged merged inputMember

/-- A merge of closed databases is closed. -/
theorem merge
    {inputs : List Database}
    {outcome : MergeOutcome}
    (closed : ∀ input ∈ inputs, input.Closed)
    (merged : Database.merge inputs = .ok outcome) :
    outcome.database.Closed := by
  have wellFormed : ∀ input ∈ inputs, input.WellFormed :=
    fun input member => (closed input member).wellFormed
  refine ⟨.merge wellFormed merged, ?_⟩
  intro kind symbol member
  obtain ⟨input, inputMember, inInput⟩ :=
    Merge.exists_input_of_merged wellFormed merged member
  exact isClosed_merged closed merged inputMember inInput

/-- A closed database stays closed when it absorbs another one, and when it cannot. -/
theorem absorb
    {accumulated input : Database}
    (closed : accumulated.Closed)
    (inputClosed : input.Closed) :
    (Edit.absorb input accumulated).2.Closed := by
  have wellFormed := closed.wellFormed.absorb inputClosed.wellFormed
  rcases united : accumulated.names.absorb input.names.names with ⟨result | result, names⟩
  · have grows := NameTable.GrowsInto.absorb accumulated.names input.names.names
    rw [united] at grows
    rw [Edit.absorb_of_absorb_error united] at wellFormed ⊢
    exact closed.of_names wellFormed.names grows
  · obtain ⟨conflicts, extended, absorbed, settles⟩ :=
      Edit.absorb_of_absorb_ok closed.wellFormed inputClosed.wellFormed united
    rw [absorbed] at wellFormed ⊢
    refine ⟨wellFormed, ?_⟩
    intro kind symbol member
    rw [settles.symbols] at member
    have namesWellFormed : names.WellFormed :=
      settles.names ▸ wellFormed.names
    rw [settles.names]
    rcases Merge.mem_foldl_settle member with held | ⟨symbols, listed, inInput⟩
    · exact (closed.symbols kind symbol held).of_find? closed.wellFormed.names
        namesWellFormed fun _ _ _ => NameTable.find?_of_absorb united
    · obtain rfl : symbols = input.symbols kind := by
        simpa [Merge.sequences] using listed
      refine (inputClosed.symbols kind symbol inInput).of_find?
        inputClosed.wellFormed.names namesWellFormed fun hash _ name found => ?_
      have bound := NameTable.find?_of_mem_absorb united (NameTable.mem_of_find? found)
      rwa [NameTable.hash_of_find? found] at bound

/-- What a file keeps of a closed database is closed. -/
theorem trimmed
    (closed : database.Closed) :
    database.trimmed.Closed := by
  have wellFormed := WellFormed.restore (closed.wellFormed.restore_of_genuine closed.genuine)
  refine ⟨wellFormed, ?_⟩
  intro kind symbol member
  rw [closed.wellFormed.symbols_trimmed] at member
  refine (closed.symbols kind symbol member).of_find? closed.wellFormed.names
    wellFormed.names fun hash referenced name found => ?_
  have stored := List.mem_flatMap.mpr ⟨symbol, mem_all_iff.mpr ⟨kind, member⟩, referenced⟩
  exact (closed.wellFormed.find?_referencedTable stored).trans found

end Closed

end Database

end SymbolDatabase
