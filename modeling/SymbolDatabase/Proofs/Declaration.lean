import SymbolDatabase.Proofs.Closed
import SymbolDatabase.Proofs.Store

namespace SymbolDatabase

/-!
# Declared functions and methods

A unit is built from nothing by one operation after another, and some of the operations
declare a function or a method.  The handle that such an operation answers leads, from then
on, to a symbol with the name, the scope and the types that were declared; parameter names,
offsets and array lengths may be those of an earlier declaration.
-/

namespace Change

/-- The database after several operations. -/
def run
    (changes : List Change)
    (database : Database) :
    Database :=
  changes.foldl (fun current change => change.apply current) database

/-- In a closed run, every operation is closed under the names of its time. -/
def ClosedRun : List Change → Database → Prop
  | [], _ =>
      True
  | change :: rest, database =>
      change.IsClosed database.names ∧ ClosedRun rest (change.apply database)

instance decidableClosedRun :
    (changes : List Change) →
    (database : Database) →
    Decidable (ClosedRun changes database)
  | [], _ =>
      inferInstanceAs (Decidable True)
  | change :: rest, database =>
      have := decidableClosedRun rest (change.apply database)
      inferInstanceAs (Decidable (change.IsClosed database.names ∧ _))

/-- In a run from nothing, an operation answers a handle. -/
def Answers
    (changes : List Change)
    (change : Change)
    (handle : Handle) :
    Prop :=
  ∃ front rest,
    changes = front ++ change :: rest ∧
      change.answer? (run front Database.empty) = some handle

variable {changes : List Change} {database : Database}

/-- A run keeps what every operation keeps. -/
theorem run_induction
    (property : Database → Prop)
    (step :
      ∀ (change : Change) database, property database → property (change.apply database))
    (holds : property database) :
    property (run changes database) := by
  induction changes generalizing database with
  | nil =>
      exact holds
  | cons change rest inductionHypothesis =>
      exact inductionHypothesis (step change database holds)

/-- A run from nothing leads to a database that a client can hold. -/
theorem reachable_run :
    (run changes Database.empty).Reachable :=
  run_induction Database.Reachable (fun change _ => .change change) .empty

/-- A run from nothing leads to a database without repetitions. -/
theorem distinct_run :
    (run changes Database.empty).Distinct :=
  (run_induction (fun database => database.Reachable ∧ database.Distinct)
    (fun change _ holds => ⟨.change change holds.1, holds.2.change holds.1.indexed change⟩)
    ⟨.empty, .empty⟩).2

/-- A database grows with every run. -/
theorem growsInto_run
    (changes : List Change)
    (database : Database) :
    database.GrowsInto (run changes database) :=
  run_induction database.GrowsInto
    (fun change _ grows => grows.trans (change.growsInto_apply _)) (.refl database)

/-- A closed run keeps a database closed. -/
theorem closed_run
    (closed : database.Closed)
    (closedRun : ClosedRun changes database) :
    (run changes database).Closed := by
  induction changes generalizing database with
  | nil =>
      exact closed
  | cons change rest inductionHypothesis =>
      exact inductionHypothesis (closed.change closedRun.1) closedRun.2

end Change

/-- The type of a slot, with its constness and how it is held. -/
abbrev Projection :=
  Bool × NameHash × Passing

namespace Signature

/-- The types of the result and of the parameters of a signature. -/
def projections
    (signature : Signature) :
    Option Projection × List Projection :=
  (signature.result.map Slot.projection, signature.parameters.map Slot.projection)

/-- Signatures agree exactly if their identifiers and types do. -/
theorem agrees_iff_projections
    {first second : Signature} :
    first.agrees second = true ↔
      first.identifier = second.identifier ∧ first.projections = second.projections := by
  simp [agrees, projections, and_assoc]

end Signature

/-- The hash that stands for a text, which is that of no name for the empty text. -/
def NameHash.standingFor
    (text : String) :
    NameHash :=
  if text = "" then NameHash.absent else NameHash.ofText text

/-- Interning answers a name with the hash that stands for the text. -/
theorem NameTable.hash_of_intern
    {table later : NameTable}
    {text : String}
    {name : Name}
    (interned : table.intern text = .ok (name, later)) :
    name.hash = NameHash.standingFor text := by
  rw [NameHash.standingFor]
  unfold NameTable.intern at interned
  split at interned
  next isEmpty =>
    cases interned
    rw [if_pos isEmpty]
    rfl
  next isText =>
    rw [if_neg isText, (NameTable.bind_eq_ok interned).1]

/-- What a call that declares a function or a method is told. -/
structure Declaration where
  isMethod : Bool
  text : String
  parent : NameHash
  result : Option Slot
  parameters : List Slot
  deriving Repr, DecidableEq

namespace Declaration

variable {declaration : Declaration}

/-- What a symbol with a signature is declared as. -/
def body
    (declaration : Declaration) :
    Signature → Body :=
  if declaration.isMethod then .method else .function

/-- The kind of the symbol that is declared. -/
def kind
    (declaration : Declaration) :
    Kind :=
  if declaration.isMethod then .method else .function

/-- The types that are declared. -/
def projections
    (declaration : Declaration) :
    Option Projection × List Projection :=
  (declaration.result.map Slot.projection, declaration.parameters.map Slot.projection)

/-- The operation that declares. -/
def change
    (declaration : Declaration) :
    Change :=
  if declaration.isMethod then
    .addMethod declaration.text declaration.parent declaration.result
      declaration.parameters
  else
    .addFunction declaration.text declaration.parent declaration.result
      declaration.parameters

/-- Whether a symbol has the kind, name, scope and types that are declared. -/
def describes
    (declaration : Declaration)
    (symbol : Symbol) :
    Bool :=
  symbol.kind = declaration.kind && symbol.name = NameHash.standingFor declaration.text &&
    symbol.parent = declaration.parent &&
    symbol.signature?.map Signature.projections = some declaration.projections

theorem kind_body
    (signature : Signature) :
    (declaration.body signature).kind = declaration.kind := by
  unfold body kind
  cases declaration.isMethod <;> rfl

theorem signature?_body
    (signature : Signature) :
    (declaration.body signature).signature? = some signature := by
  unfold body
  cases declaration.isMethod <;> rfl

theorem body_agrees
    (first second : Signature) :
    (declaration.body first).agrees (declaration.body second) = first.agrees second := by
  unfold body
  cases declaration.isMethod <;> rfl

theorem exists_body_of_kind
    {body : Body}
    (sameKind : body.kind = declaration.kind) :
    ∃ signature, body = declaration.body signature := by
  obtain ⟨isMethod, text, parent, result, parameters⟩ := declaration
  cases isMethod <;> cases body <;> first | cases sameKind; done | exact ⟨_, rfl⟩

/-- A symbol is described by a declaration exactly if it is what the declaration makes. -/
theorem describes_iff
    {symbol : Symbol} :
    declaration.describes symbol = true ↔
      ∃ signature,
        symbol =
            ⟨NameHash.standingFor declaration.text, declaration.parent,
              declaration.body signature⟩ ∧
          signature.projections = declaration.projections := by
  obtain ⟨name, parent, body⟩ := symbol
  constructor
  · intro described
    simp only [describes, Bool.and_eq_true, decide_eq_true_eq] at described
    obtain ⟨⟨⟨sameKind, rfl⟩, rfl⟩, sameTypes⟩ := described
    obtain ⟨signature, rfl⟩ := exists_body_of_kind sameKind
    refine ⟨signature, rfl, ?_⟩
    simpa [Symbol.signature?, signature?_body] using sameTypes
  · rintro ⟨signature, made, sameTypes⟩
    cases made
    simp [describes, Symbol.kind, kind_body, Symbol.signature?, signature?_body, sameTypes]

/-- Symbols that a declaration describes have one definition if they have one identifier. -/
theorem sameDefinition_of_describes
    {first second : Symbol}
    (firstDescribed : declaration.describes first = true)
    (secondDescribed : declaration.describes second = true)
    (sameIdentifier : first.identifier? = second.identifier?) :
    first.sameDefinition second = true := by
  obtain ⟨firstSignature, rfl, firstTypes⟩ := describes_iff.mp firstDescribed
  obtain ⟨secondSignature, rfl, secondTypes⟩ := describes_iff.mp secondDescribed
  have agree : firstSignature.agrees secondSignature = true := by
    refine Signature.agrees_iff_projections.mpr ⟨?_, firstTypes.trans secondTypes.symm⟩
    simpa [Symbol.identifier?, Symbol.signature?, signature?_body] using sameIdentifier
  simp [Symbol.sameDefinition, body_agrees, agree]

/-- What has the definition of a described symbol is described as well. -/
theorem describes_of_sameDefinition
    {held symbol : Symbol}
    (described : declaration.describes symbol = true)
    (same : held.sameDefinition symbol = true) :
    declaration.describes held = true := by
  have sameKind := Symbol.kind_eq_of_sameDefinition same
  obtain ⟨signature, rfl, sameTypes⟩ := describes_iff.mp described
  obtain ⟨name, parent, body⟩ := held
  obtain ⟨heldSignature, rfl⟩ :=
    exists_body_of_kind (sameKind.trans (kind_body signature))
  simp only [Symbol.sameDefinition, Bool.and_eq_true, decide_eq_true_eq] at same
  obtain ⟨⟨rfl, rfl⟩, agree⟩ := same
  rw [body_agrees, Signature.agrees_iff_projections] at agree
  exact describes_iff.mpr ⟨heldSignature, rfl, agree.2.trans sameTypes⟩

/-- A declaration adds a function or a method. -/
theorem adding?_change
    (declaration : Declaration) :
    declaration.change.adding? =
      some
        (Edit.addCallable declaration.text declaration.parent declaration.result
          declaration.parameters declaration.body) := by
  unfold change body
  cases declaration.isMethod <;> rfl

/-- The handle that a declaration answers leads to a symbol that it describes. -/
theorem exists_described_of_answer?
    {database : Database}
    {handle : Handle}
    (answered : declaration.change.answer? database = some handle) :
    ∃ symbol,
      (declaration.change.apply database).store.Holds handle symbol ∧
        declaration.describes symbol = true := by
  rw [Change.apply_of_adding (adding?_change declaration)]
  rw [Change.answer?, adding?_change, Option.bind_some] at answered
  cases interned : database.names.intern declaration.text with
  | error error =>
      rw [Edit.addCallable_of_eq_error interned] at answered
      cases answered
  | ok bound =>
      obtain ⟨bound, names⟩ := bound
      rw [Edit.addCallable_of_eq_ok interned, Edit.addSymbol_eq] at answered ⊢
      obtain rfl := Option.some.inj answered
      obtain ⟨symbol, held, same⟩ := Store.exists_holds_add _ _
      refine ⟨symbol, held, describes_of_sameDefinition ?_ same⟩
      exact describes_iff.mpr ⟨_, by rw [NameTable.hash_of_intern interned], rfl⟩

/-- And so it does at the end of a run in which the handle was answered. -/
theorem exists_described_of_answers
    {changes : List Change}
    {handle : Handle}
    (answers : Change.Answers changes declaration.change handle) :
    ∃ symbol,
      (Change.run changes Database.empty).store.Holds handle symbol ∧
        declaration.describes symbol = true := by
  obtain ⟨front, rest, rfl, answered⟩ := answers
  obtain ⟨symbol, held, described⟩ := exists_described_of_answer? answered
  have grows :=
    Change.growsInto_run rest
      (declaration.change.apply (Change.run front Database.empty))
  refine ⟨symbol, ?_, described⟩
  rw [Change.run, List.foldl_append]
  exact grows.holds held

end Declaration

end SymbolDatabase
