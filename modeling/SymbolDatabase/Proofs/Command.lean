import Mathlib.Data.List.Perm.Basic
import SymbolDatabase.Command
import SymbolDatabase.Proofs.Reload

namespace SymbolDatabase

/-!
# What a merge command loads, and how it exits

Each input of a merge command is loaded from its own path, whatever the other paths are.
The command exits with zero exactly if there is something to save and saving succeeds, and
with one otherwise.
-/

namespace FileTree

/-- Whether saving under a path succeeds does not depend on what is saved. -/
theorem save_fst_congr
    (tree : FileTree)
    (path : String)
    (first second : Bytes) :
    (tree.save path first).1 = (tree.save path second).1 := by
  unfold save
  rcases tree.makeDirectories (Path.parent path) with ⟨made | made, changed⟩
  · rfl
  · dsimp only
    cases changed.target path <;> rfl

end FileTree

namespace Database

/-- What is loaded from a path is reachable. -/
theorem reachable_of_load
    {view : FileView}
    {path : String}
    {database : Database}
    (loaded : Database.load view path = .ok database) :
    database.Reachable := by
  unfold Database.load at loaded
  split at loaded
  · cases loaded
  · split at loaded <;> cases loaded
  · split at loaded
    · exact .ofDocument loaded
    · exact .ofContainer loaded

/-- What was saved as a document is loaded from a path that asks for a document. -/
theorem load_toDocument
    {view : FileView}
    {path : String}
    {database : Database}
    (opened : view path = .ok (.file database.toDocument))
    (isDocument : Path.isDocument path = true)
    (reachable : database.Reachable)
    (genuine : database.Genuine) :
    Database.load view path = .ok database.trimmed := by
  rw [Database.load, opened]
  simp only [isDocument, if_true]
  rw [Database.ofDocument_toDocument, reachable.wellFormed.restore_of_genuine genuine]

end Database

namespace Command

variable
  {view : FileView}
  {paths permutedPaths : List String}
  {inputs : List Database}

/-- An input is what its path leads to, known by the path if it has no source. -/
def LoadsAs
    (view : FileView)
    (path : String)
    (input : Database) :
    Prop :=
  ∃ database,
    Database.load view path = .ok database ∧
      input = { database with source := some (database.source.getD path) }

/-- What is loaded as an input is reachable. -/
theorem LoadsAs.reachable
    {path : String}
    {input : Database}
    (loads : LoadsAs view path input) :
    input.Reachable := by
  obtain ⟨database, loaded, rfl⟩ := loads
  exact .change (.setSource _) (Database.reachable_of_load loaded)

/-- The inputs of a merge command are loaded exactly if each is loaded from its path. -/
theorem loadInputs_eq_ok_iff :
    loadInputs view paths = .ok inputs ↔ List.Forall₂ (LoadsAs view) paths inputs := by
  induction paths generalizing inputs with
  | nil =>
      cases inputs <;> simp [loadInputs]
  | cons path rest inductionHypothesis =>
      unfold loadInputs
      constructor
      · intro loaded
        split at loaded
        · cases loaded
        · next database read =>
            split at loaded
            · cases loaded
            · next databases restLoaded =>
                obtain rfl := Except.ok.inj loaded
                exact .cons ⟨database, read, rfl⟩ (inductionHypothesis.mp restLoaded)
      · rintro (_ | ⟨⟨database, read, rfl⟩, restLoads⟩)
        rw [read, inductionHypothesis.mpr restLoads]

/-- The inputs of a merge command are reachable. -/
theorem reachable_of_loadInputs
    (loaded : loadInputs view paths = .ok inputs) :
    ∀ input ∈ inputs, input.Reachable := by
  have loads := loadInputs_eq_ok_iff.mp loaded
  clear loaded
  induction loads with
  | nil =>
      simp
  | cons first rest inductionHypothesis =>
      exact List.forall_mem_cons.mpr ⟨first.reachable, inductionHypothesis⟩

/-- From paths in another order, the same inputs are loaded in that order. -/
theorem exists_loadInputs_of_perm
    (loaded : loadInputs view paths = .ok inputs)
    (reordered : paths.Perm permutedPaths) :
    ∃ permuted,
      loadInputs view permutedPaths = .ok permuted ∧ inputs.Perm permuted := by
  obtain ⟨permuted, loads, permutation⟩ :=
    List.perm_comp_forall₂ reordered.symm (loadInputs_eq_ok_iff.mp loaded)
  exact ⟨permuted, loadInputs_eq_ok_iff.mpr loads, permutation.symm⟩

/-- A database is saved successfully if its content can be formed and put in place. -/
theorem exitCode_saveDatabase
    (tree : FileTree)
    (database : Database)
    (path warnings output : String) :
    let exitCode := ((saveDatabase database path warnings output).perform tree).1.exitCode
    exitCode ≤ 1 ∧
      (exitCode = 0 ↔
        ∃ content,
          database.fileContent path = .ok content ∧
            (tree.save path content).1 = .ok ()) := by
  unfold saveDatabase
  cases formed : database.fileContent path with
  | error error =>
      simp [Outcome.perform, Report.failureWhile, Report.failure]
  | ok content =>
      cases saved : (tree.save path content).1 with
      | error error =>
          simp [Outcome.perform, Outcome.afterSaving, saved, Report.failureWhile,
            Report.failure]
      | ok done =>
          simp [Outcome.perform, Outcome.afterSaving, saved, Report.success]

/--
A merge of loaded inputs exits with zero exactly if the names can be united, conflicts are
absent or allowed, and the outcome is saved.
-/
theorem exitCode_runMerge
    (tree : FileTree)
    (out : String)
    (allowsConflicts : Bool)
    (loaded : loadInputs view paths = .ok inputs) :
    let exitCode :=
      ((runMerge view out paths allowsConflicts).perform tree).1.exitCode
    exitCode ≤ 1 ∧
      (exitCode = 0 ↔
        ∃ outcome content,
          Database.merge inputs = .ok outcome ∧
            (outcome.isClean = true ∨ allowsConflicts = true) ∧
            outcome.database.fileContent out = .ok content ∧
            (tree.save out content).1 = .ok ()) := by
  unfold runMerge
  rw [loaded]
  dsimp only
  cases merged : Database.merge inputs with
  | error error =>
      simp [Outcome.perform, Report.failureOf, Report.failure]
  | ok outcome =>
      dsimp only
      split
      · next goesOn =>
          obtain ⟨bounded, succeeds⟩ :=
            exitCode_saveDatabase tree outcome.database out
              (conflictLines outcome.conflicts) _
          refine ⟨bounded, succeeds.trans ?_⟩
          simp [goesOn]
      · next stops =>
          simp [Outcome.perform, Report.failure, stops]

end Command

end SymbolDatabase
