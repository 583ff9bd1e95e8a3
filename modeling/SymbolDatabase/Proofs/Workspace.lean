import SymbolDatabase.Proofs.Closed

namespace SymbolDatabase

/-!
# Runs over several databases

A client holds several databases and the files that were saved of them, and every action
adds to these or changes one of them.  In a run that adds functions and methods with bound
types only, all databases stay closed, whatever else is bound, merged, absorbed, saved and
loaded in between, and whatever fails.  A step lemma says what one action keeps, and
induction over the actions says it of a run.
-/

/-- The databases that a client holds, and the files that were saved of them. -/
structure Workspace where
  databases : List Database
  containers : List Bytes
  documents : List Bytes
  deriving Repr, DecidableEq

/-- What a client does.  Databases and files go by the numbers at which they are held. -/
inductive Action where
  | create
  | createWithBaseTypes
  | perform (database : Nat) (change : Change)
  | merge (inputs : List Nat)
  | absorb (accumulated input : Nat)
  | saveContainer (database : Nat)
  | saveDocument (database : Nat)
  | loadContainer (file : Nat)
  | loadDocument (file : Nat)
  deriving Repr, DecidableEq

namespace Workspace

/-- The workspace without databases and files. -/
def empty : Workspace :=
  ⟨[], [], []⟩

/-- Take in a database, if there is one. -/
def hold
    (workspace : Workspace) :
    Except Error Database → Workspace
  | .ok database =>
      { workspace with databases := workspace.databases ++ [database] }
  | .error _ =>
      workspace

/-- Change the database with a number, if there is one. -/
def modify
    (workspace : Workspace)
    (number : Nat)
    (change : Database → Database) :
    Workspace :=
  { workspace with databases := workspace.databases.modify number change }

end Workspace

namespace Action

/-- The workspace after an action, whether or not the action succeeded. -/
def apply : Action → Workspace → Workspace
  | .create, workspace =>
      workspace.hold (.ok Database.empty)
  | .createWithBaseTypes, workspace =>
      workspace.hold (Database.withBaseTypes.1.map fun _ => Database.withBaseTypes.2)
  | .perform number change, workspace =>
      workspace.modify number change.apply
  | .merge numbers, workspace =>
      let inputs := numbers.filterMap fun number => workspace.databases[number]?
      workspace.hold ((Database.merge inputs).map MergeOutcome.database)
  | .absorb accumulated input, workspace =>
      match workspace.databases[input]? with
      | some database =>
          workspace.modify accumulated fun held => (Edit.absorb database held).2
      | none =>
          workspace
  | .saveContainer number, workspace =>
      match (workspace.databases[number]?).map Database.toContainer with
      | some (.ok container) =>
          { workspace with containers := workspace.containers ++ [container] }
      | _ =>
          workspace
  | .saveDocument number, workspace =>
      match workspace.databases[number]? with
      | some database =>
          { workspace with documents := workspace.documents ++ [database.toDocument] }
      | none =>
          workspace
  | .loadContainer file, workspace =>
      match workspace.containers[file]? with
      | some container =>
          workspace.hold (Database.ofContainer container)
      | none =>
          workspace
  | .loadDocument file, workspace =>
      match workspace.documents[file]? with
      | some document =>
          workspace.hold (Database.ofDocument document)
      | none =>
          workspace

/-- Every slot that an action makes a signature of has a type that is absent or bound. -/
def IsClosed
    (action : Action)
    (workspace : Workspace) :
    Prop :=
  match action with
  | .perform number change =>
      ∀ database ∈ workspace.databases[number]?, change.IsClosed database.names
  | _ =>
      True

instance
    (action : Action)
    (workspace : Workspace) :
    Decidable (action.IsClosed workspace) :=
  match action with
  | .perform number change =>
      inferInstanceAs
        (Decidable
          (∀ database ∈ workspace.databases[number]?, change.IsClosed database.names))
  | .create | .createWithBaseTypes | .merge _ | .absorb _ _ | .saveContainer _
  | .saveDocument _ | .loadContainer _ | .loadDocument _ =>
      inferInstanceAs (Decidable True)

end Action

namespace Database.Closed

variable {database : Database}

/-- A database with the base types is closed. -/
theorem withBaseTypes :
    Database.withBaseTypes.2.Closed := by
  have closed : Change.IsClosed .addBaseTypes Database.empty.names :=
    ⟨trivial, by simp [Change.slots]⟩
  have seeded := empty.change closed
  rw [Change.apply, Change.edit] at seeded
  rw [Database.withBaseTypes, ExceptT.run]
  exact seeded

/-- A closed database is loaded from its document with what the document keeps. -/
theorem ofDocument_toDocument
    (closed : database.Closed) :
    Database.ofDocument database.toDocument = .ok database.trimmed := by
  rw [Database.ofDocument_toDocument, closed.wellFormed.restore_of_genuine closed.genuine]

/-- And so it is from its container, unless no 64-bit length describes the container. -/
theorem ofContainer_of_toContainer
    (closed : database.Closed)
    {container : Bytes}
    (packed : database.toContainer = .ok container) :
    Database.ofContainer container = .ok database.trimmed ∨
      Database.ofContainer container = .error .corrupt ∧
        UInt64.size ≤ container.length := by
  obtain ⟨framed, fromContainer⟩ := Database.ofContainer_of_toContainer packed
  rw [fromContainer, closed.wellFormed.restore_of_genuine closed.genuine]
  by_cases fits : database.snapshot.compactDocument.length < UInt64.size
  · rw [if_pos fits]
    exact .inl rfl
  · rw [if_neg fits]
    exact .inr ⟨rfl, by omega⟩

end Database.Closed

namespace Workspace

/-- All databases are closed, and all files were saved of closed databases. -/
structure Sound
    (workspace : Workspace) :
    Prop where
  databases :
    ∀ database ∈ workspace.databases, database.Closed
  containers :
    ∀ container ∈ workspace.containers,
      ∃ database : Database, database.Closed ∧ database.toContainer = .ok container
  documents :
    ∀ document ∈ workspace.documents,
      ∃ database : Database, database.Closed ∧ database.toDocument = document

namespace Sound

variable {workspace : Workspace}

/-- The workspace without databases and files is sound. -/
theorem empty :
    Workspace.empty.Sound where
  databases := by
    simp [Workspace.empty]
  containers := by
    simp [Workspace.empty]
  documents := by
    simp [Workspace.empty]

/-- Taking in a closed database keeps a workspace sound. -/
theorem hold
    (sound : workspace.Sound)
    {result : Except Error Database}
    (closed : ∀ database, result = .ok database → database.Closed) :
    (workspace.hold result).Sound := by
  cases result with
  | error error =>
      exact sound
  | ok database =>
      have allClosed := List.forall_mem_singleton.mpr (closed database rfl)
      exact
        ⟨List.forall_mem_append.mpr ⟨sound.databases, allClosed⟩, sound.containers,
          sound.documents⟩

/-- Taking in the database of a result keeps a workspace sound if that one is closed. -/
theorem hold_map
    {α : Type}
    (sound : workspace.Sound)
    {result : Except Error α}
    {database : α → Database}
    (closed : ∀ value, result = .ok value → (database value).Closed) :
    (workspace.hold (result.map database)).Sound := by
  cases result with
  | error error =>
      exact sound
  | ok value =>
      exact sound.hold fun held isHeld => Except.ok.inj isHeld ▸ closed value rfl

/-- Changing a database so that it stays closed keeps a workspace sound. -/
theorem modify
    (sound : workspace.Sound)
    {number : Nat}
    {change : Database → Database}
    (closed :
      ∀ database ∈ workspace.databases[number]?, database.Closed → (change database).Closed) :
    (workspace.modify number change).Sound := by
  refine ⟨?_, sound.containers, sound.documents⟩
  intro changed member
  obtain ⟨position, there⟩ := List.mem_iff_getElem?.mp member
  rw [Workspace.modify, List.getElem?_modify] at there
  obtain ⟨held, heldThere, rfl⟩ := Option.map_eq_some_iff.mp there
  have heldClosed := sound.databases held (List.mem_of_getElem? heldThere)
  split
  next isNumber =>
    subst isNumber
    exact closed held heldThere heldClosed
  next =>
    exact heldClosed

/-- A closed action keeps a workspace sound. -/
theorem apply
    (sound : workspace.Sound)
    {action : Action}
    (closed : action.IsClosed workspace) :
    (action.apply workspace).Sound := by
  cases action with
  | create =>
      exact sound.hold fun database created => Except.ok.inj created ▸ .empty
  | createWithBaseTypes =>
      rw [Action.apply]
      exact sound.hold_map fun _ _ => Database.Closed.withBaseTypes
  | perform number change =>
      exact sound.modify fun database there databaseClosed =>
        databaseClosed.change (closed database there)
  | merge numbers =>
      refine sound.hold_map fun outcome merged => ?_
      refine Database.Closed.merge (fun input member => ?_) merged
      obtain ⟨number, -, there⟩ := List.mem_filterMap.mp member
      exact sound.databases input (List.mem_of_getElem? there)
  | absorb accumulated input =>
      rw [Action.apply]
      split
      next database there =>
        have inputClosed := sound.databases database (List.mem_of_getElem? there)
        exact sound.modify fun held _ heldClosed => heldClosed.absorb inputClosed
      next =>
        exact sound
  | saveContainer number =>
      rw [Action.apply]
      split
      next container packed =>
        obtain ⟨database, there, isContainer⟩ := Option.map_eq_some_iff.mp packed
        have databaseClosed := sound.databases database (List.mem_of_getElem? there)
        refine ⟨sound.databases, List.forall_mem_append.mpr ⟨sound.containers, ?_⟩,
          sound.documents⟩
        exact List.forall_mem_singleton.mpr ⟨database, databaseClosed, isContainer⟩
      next =>
        exact sound
  | saveDocument number =>
      rw [Action.apply]
      split
      next database there =>
        have databaseClosed := sound.databases database (List.mem_of_getElem? there)
        refine ⟨sound.databases, sound.containers,
          List.forall_mem_append.mpr ⟨sound.documents, ?_⟩⟩
        exact List.forall_mem_singleton.mpr ⟨database, databaseClosed, rfl⟩
      next =>
        exact sound
  | loadContainer file =>
      rw [Action.apply]
      split
      next container there =>
        obtain ⟨database, databaseClosed, packed⟩ :=
          sound.containers container (List.mem_of_getElem? there)
        refine sound.hold fun loaded read => ?_
        rcases databaseClosed.ofContainer_of_toContainer packed with isLoaded | ⟨isRefused, -⟩
        · rw [isLoaded] at read
          cases read
          exact databaseClosed.trimmed
        · rw [isRefused] at read
          cases read
      next =>
        exact sound
  | loadDocument file =>
      rw [Action.apply]
      split
      next document there =>
        obtain ⟨database, databaseClosed, rfl⟩ :=
          sound.documents document (List.mem_of_getElem? there)
        refine sound.hold fun loaded read => ?_
        rw [databaseClosed.ofDocument_toDocument] at read
        cases read
        exact databaseClosed.trimmed
      next =>
        exact sound

end Sound

/-- The workspace after several actions. -/
def run
    (actions : List Action)
    (workspace : Workspace) :
    Workspace :=
  actions.foldl (fun current action => action.apply current) workspace

/-- In a closed run, every action is closed at its time. -/
def ClosedRun : List Action → Workspace → Prop
  | [], _ =>
      True
  | action :: rest, workspace =>
      action.IsClosed workspace ∧ ClosedRun rest (action.apply workspace)

instance decidableClosedRun :
    (actions : List Action) →
    (workspace : Workspace) →
    Decidable (ClosedRun actions workspace)
  | [], _ =>
      inferInstanceAs (Decidable True)
  | action :: rest, workspace =>
      have := decidableClosedRun rest (action.apply workspace)
      inferInstanceAs (Decidable (action.IsClosed workspace ∧ _))

/-- A closed run keeps a workspace sound, from its first action on. -/
theorem Sound.run
    {workspace : Workspace}
    (sound : workspace.Sound)
    {front rest : List Action}
    (closed : ClosedRun (front ++ rest) workspace) :
    (Workspace.run front workspace).Sound := by
  induction front generalizing workspace with
  | nil =>
      exact sound
  | cons action later inductionHypothesis =>
      exact inductionHypothesis (sound.apply closed.1) closed.2

end Workspace

open Workspace

/--
At every moment of a run in which functions and methods are added with absent or bound
types only, every function and method in every database has the identifier that its slots
determine under the names of that moment.  So every database is loaded again, with what it
holds, from the files that are saved of it, and every file saved so far can be loaded.  A
container is a byte sequence in memory, so its length is below `UInt64.size`.
-/
theorem identifiers_stay_genuine
    {actions : List Action}
    (closed : ClosedRun actions Workspace.empty) :
    ∀ front rest,
      actions = front ++ rest →
        (∀ database ∈ (run front Workspace.empty).databases,
          database.Genuine ∧
            ∃ reloaded,
              Database.ofDocument database.toDocument = .ok reloaded ∧
                (∀ container,
                  database.toContainer = .ok container →
                  container.length < UInt64.size →
                    Database.ofContainer container = .ok reloaded) ∧
                database.SameContent reloaded) ∧
          (∀ document ∈ (run front Workspace.empty).documents,
            ∃ loaded, Database.ofDocument document = .ok loaded) ∧
          ∀ container ∈ (run front Workspace.empty).containers,
            container.length < UInt64.size →
              ∃ loaded, Database.ofContainer container = .ok loaded := by
  rintro front rest rfl
  have sound := Sound.empty.run closed
  have loadsContainer :
      ∀ {database : Database} {container : Bytes},
        database.Closed →
        database.toContainer = .ok container →
        container.length < UInt64.size →
          Database.ofContainer container = .ok database.trimmed := by
    intro database container databaseClosed packed addressable
    refine (databaseClosed.ofContainer_of_toContainer packed).resolve_right ?_
    rintro ⟨-, tooLong⟩
    exact Nat.not_lt.mpr tooLong addressable
  refine ⟨?databases, ?documents, ?containers⟩
  case databases =>
    intro database member
    have databaseClosed := sound.databases database member
    exact
      ⟨databaseClosed.genuine, database.trimmed, databaseClosed.ofDocument_toDocument,
        fun _ => loadsContainer databaseClosed,
        databaseClosed.wellFormed.sameContent_trimmed⟩
  case documents =>
    intro document member
    obtain ⟨database, databaseClosed, rfl⟩ := sound.documents document member
    exact ⟨database.trimmed, databaseClosed.ofDocument_toDocument⟩
  case containers =>
    intro container member addressable
    obtain ⟨database, databaseClosed, packed⟩ := sound.containers container member
    exact ⟨database.trimmed, loadsContainer databaseClosed packed addressable⟩

/--
Two units declare functions and methods with a type that both bind.  They are merged, the
merge is absorbed by the first of them, saved and loaded.
-/
def twoUnits : List Action :=
  let slot : Slot :=
    { name := 0
      type := NameHash.ofText "int"
      passing := .pointer
      isConst := true
      offset := 0
      arrayLength := 0 }
  [ .create,
    .perform 0 (.addFunction "find" 0 none []),
    .perform 0 (.intern "int"),
    .perform 0 (.addFunction "find" 0 (some slot) [slot]),
    .create,
    .perform 1 (.addType "int" 0 4),
    .perform 1 (.addMethod "find" 0 none [slot]),
    .merge [1, 0],
    .absorb 0 2,
    .saveDocument 2,
    .loadDocument 0 ]

/-- The merge of the two units is genuine, and loaded again as it is. -/
theorem identifiers_stay_genuine_twoUnits :
    ∃ merged reloaded,
      (run (twoUnits.take 9) Workspace.empty).databases[2]? = some merged ∧
        merged.size = 4 ∧
        merged.Genuine ∧
        Database.ofDocument merged.toDocument = .ok reloaded ∧
        merged.SameContent reloaded := by
  have closed : ClosedRun twoUnits Workspace.empty := by
    decide +kernel
  have held :
      ((run (twoUnits.take 9) Workspace.empty).databases[2]?).map Database.size = some 4 := by
    decide +kernel
  obtain ⟨merged, isHeld, size⟩ := Option.map_eq_some_iff.mp held
  obtain ⟨databases, -, -⟩ :=
    identifiers_stay_genuine closed (twoUnits.take 9) (twoUnits.drop 9) rfl
  obtain ⟨genuine, reloaded, loaded, -, sameContent⟩ :=
    databases merged (List.mem_of_getElem? isHeld)
  exact ⟨merged, reloaded, isHeld, size, genuine, loaded, sameContent⟩

end SymbolDatabase
