import SymbolDatabase.Proofs.Command
import SymbolDatabase.Proofs.Command.Report
import SymbolDatabase.Proofs.Files.Tree
import SymbolDatabase.Proofs.Merge.Names

namespace SymbolDatabase

/-!
# Commands change one file or none

A command either is finished with what it prints, or saves one file under the path that it
was asked to write to, after everything was read.  So a command that exits with an error
leaves every file as it was, and one that succeeds changes the file that it was asked to
write and no other.  A merge tells every conflict first, whether or not it is saved, and
what it saves is made of the inputs as they were before, even if one of them is replaced.
-/

/-- A path has an extension, in any case of letters. -/
def Path.HasExtension
    (path extension : String) :
    Prop :=
  ∃ found,
    Path.extension? path = some found ∧
      found.toList.map Char.toLower = extension.toList

/-- A path asks for a document exactly by its extension. -/
theorem Path.isDocument_iff
    {path : String} :
    Path.isDocument path = true ↔ Path.HasExtension path "json" := by
  have letters : "json".toList = ['j', 's', 'o', 'n'] := by
    decide
  unfold isDocument HasExtension
  rw [letters]
  cases Path.extension? path <;> simp

/-- A path asks for a database as the document, by its extension, or as the container. -/
def Database.IsWrittenAs
    (database : Database)
    (path : String)
    (content : Bytes) :
    Prop :=
  (Path.HasExtension path "json" → content = database.toDocument) ∧
    (¬ Path.HasExtension path "json" → database.toContainer = .ok content)

/-- What is saved under a path is what the path asks for. -/
theorem Database.fileContent_eq_ok_iff
    {database : Database}
    {path : String}
    {content : Bytes} :
    database.fileContent path = .ok content ↔ database.IsWrittenAs path content := by
  unfold Database.fileContent Database.IsWrittenAs
  rw [← Path.isDocument_iff]
  cases Path.isDocument path <;> simp [eq_comm]

namespace Outcome

/-- What carrying out an outcome that saves a file leaves behind. -/
theorem perform_save
    (tree : FileTree)
    (path : String)
    (content : Bytes)
    (warnings output : String) :
    let after := (Outcome.save path content warnings output).perform tree
    (after.1.exitCode = 0 →
        ∃ directory name, tree.Saves after.2 path content directory name) ∧
      (after.1.exitCode ≠ 0 → tree.SameFiles after.2) := by
  obtain ⟨saves, spares⟩ := tree.save_or_sameFiles path content
  rcases saved : tree.save path content with ⟨error | done, changed⟩
  all_goals
    rw [saved] at saves spares
    rw [perform, saved]
  · have notDone : (Except.error error : Except Error Unit) ≠ .ok () := by
      simp
    exact
      ⟨fun succeeded => (Report.exitCode_failure _ _ _ succeeded).elim,
        fun _ => spares notDone⟩
  · exact ⟨fun _ => saves rfl, fun failed => (failed rfl).elim⟩

/-- What is printed about saving stands behind the warnings. -/
theorem tellsFirst_perform_save
    (tree : FileTree)
    (path : String)
    (content : Bytes)
    (warnings output : String) :
    ((Outcome.save path content warnings output).perform tree).1.TellsFirst warnings := by
  rcases saved : tree.save path content with ⟨error | done, changed⟩
  all_goals
    rw [perform, saved]
  · exact Report.tellsFirst_failure _ _ _
  · exact Report.tellsFirst_success _ _

end Outcome

namespace Command

variable {view : FileView} {command : Command} {out : String} {inputs : List String}

/-- The path that a command is asked to write to. -/
def outPath? : Command → Option String
  | .init out _ | .merge out _ _ =>
      some out
  | .info _ | .lookup _ _ _ | .dump _ | .verify _ =>
      none

/-- A command writes under a path, or it has failed before. -/
def WritesUnder
    (out : String)
    (outcome : Outcome) :
    Prop :=
  (∃ content warnings output, outcome = .save out content warnings output) ∨
    ∃ report : Report, outcome = .finished report ∧ report.exitCode ≠ 0

/-- What is finished as a failure writes nothing. -/
theorem writesUnder_failure
    (out warnings text : String)
    (behind : List String) :
    WritesUnder out (.finished (.failure warnings text behind)) :=
  .inr ⟨_, rfl, Report.exitCode_failure warnings text behind⟩

/-- A database is saved under the path, or its content cannot be formed. -/
theorem writesUnder_saveDatabase
    (database : Database)
    (out warnings output : String) :
    WritesUnder out (saveDatabase database out warnings output) := by
  unfold saveDatabase
  cases database.fileContent out with
  | ok content =>
      exact .inl ⟨content, warnings, output, rfl⟩
  | error error =>
      exact writesUnder_failure _ _ _ _

theorem writesUnder_runInit
    (out : String)
    (source : Option String) :
    WritesUnder out (runInit out source) := by
  unfold runInit
  generalize Database.withBaseTypes = seeded
  rcases seeded with ⟨error | done, database⟩
  · exact writesUnder_failure _ _ _ _
  · exact writesUnder_saveDatabase _ _ _ _

theorem writesUnder_runMerge
    (view : FileView)
    (out : String)
    (inputs : List String)
    (allowsConflicts : Bool) :
    WritesUnder out (runMerge view out inputs allowsConflicts) := by
  unfold runMerge
  cases loadInputs view inputs with
  | error failed =>
      exact writesUnder_failure _ _ _ _
  | ok databases =>
      dsimp only
      cases Database.merge databases with
      | error error =>
          exact writesUnder_failure _ _ _ _
      | ok outcome =>
          dsimp only
          split
          · exact writesUnder_saveDatabase _ _ _ _
          · exact writesUnder_failure _ _ _ _

/-- A command that is asked to write does so under its path only. -/
theorem writesUnder_outcome
    (writes : command.outPath? = some out)
    (view : FileView) :
    WritesUnder out (command.outcome view) := by
  cases command with
  | init path source =>
      obtain rfl : path = out := Option.some.inj writes
      exact writesUnder_runInit path source
  | merge path inputs allowsConflicts =>
      obtain rfl : path = out := Option.some.inj writes
      exact writesUnder_runMerge view path inputs allowsConflicts
  | info | lookup | dump | verify =>
      cases writes

/-- Continuing with a loaded database is finished if every continuation is. -/
theorem exists_finished_withLoaded
    {path : String}
    {next : Database → Outcome}
    (finishes : ∀ database, ∃ report, next database = .finished report) :
    ∃ report, withLoaded view path next = .finished report := by
  unfold withLoaded
  split
  · exact finishes _
  · exact ⟨_, rfl⟩

/-- A command that is not asked to write is finished when it has read. -/
theorem exists_finished_outcome
    (reads : command.outPath? = none)
    (view : FileView) :
    ∃ report, command.outcome view = .finished report := by
  cases command with
  | init | merge =>
      cases reads
  | info | lookup | dump =>
      exact exists_finished_withLoaded fun database => ⟨_, rfl⟩
  | verify path =>
      unfold outcome runVerify
      dsimp only
      split
      · exact ⟨_, rfl⟩
      · exact ⟨_, rfl⟩
      · split <;> exact ⟨_, rfl⟩

/-- A command that only reads leaves the tree as it is. -/
theorem run_of_reads
    (reads : command.outPath? = none)
    (tree : FileTree) :
    (command.run tree).2 = tree := by
  obtain ⟨report, finished⟩ := exists_finished_outcome reads tree.openPath
  rw [run, finished]
  rfl

/-- A command that writes has saved one file, or left every file as it was. -/
theorem run_of_writes
    (writes : command.outPath? = some out)
    (tree : FileTree) :
    ((command.run tree).1.exitCode = 0 →
        ∃ content directory name,
          tree.Saves (command.run tree).2 out content directory name) ∧
      ((command.run tree).1.exitCode ≠ 0 → tree.SameFiles (command.run tree).2) := by
  rw [run]
  rcases writesUnder_outcome writes tree.openPath with
    ⟨content, warnings, output, saves⟩ | ⟨report, finished, failed⟩
  · obtain ⟨succeeds, fails⟩ := Outcome.perform_save tree out content warnings output
    rw [saves]
    exact ⟨fun succeeded => ⟨content, succeeds succeeded⟩, fails⟩
  · rw [finished]
    exact
      ⟨fun succeeded => (failed succeeded).elim,
        fun _ => (FileTree.GainsDirectories.refl tree).sameFiles⟩

/--
What a merge command has done once its inputs have been merged: it has told each conflict in
a line, in order, and an error behind them if it failed, and otherwise saved the outcome in
the format that the extension of its path asks for.
-/
structure Delivers
    (out : String)
    (outcome : MergeOutcome)
    (after : Report × FileTree) :
    Prop where
  told :
    ∃ warnings,
      TellsConflicts outcome.conflicts warnings ∧ after.1.TellsFirst warnings
  saved :
    after.1.exitCode = 0 →
      ∃ content,
        after.2.openPath out = .ok (.file content) ∧
          outcome.database.IsWrittenAs out content

/-- A merge that fails behind its warnings has told its conflicts and saves nothing. -/
theorem delivers_failure
    (out : String)
    (merged : MergeOutcome)
    (text : String)
    (behind : List String)
    (tree : FileTree) :
    Delivers out merged
      ((Outcome.finished (.failure (conflictLines merged.conflicts) text behind)).perform
        tree) where
  told :=
    ⟨_, tellsConflicts_iff.mpr rfl,
      Report.tellsFirst_failure _ text behind⟩
  saved succeeded :=
    (Report.exitCode_failure _ text behind succeeded).elim

/-- A merge that is saved is delivered, whatever comes of saving it. -/
theorem delivers_saveDatabase
    (out : String)
    (merged : MergeOutcome)
    (output : String)
    (tree : FileTree) :
    Delivers out merged
      ((saveDatabase merged.database out (conflictLines merged.conflicts) output).perform
        tree) := by
  unfold saveDatabase
  cases formed : merged.database.fileContent out with
  | error error =>
      exact delivers_failure out merged _ _ tree
  | ok content =>
      dsimp only
      obtain ⟨saves, -⟩ :=
        Outcome.perform_save tree out content (conflictLines merged.conflicts) output
      constructor
      case told =>
        exact
          ⟨_, tellsConflicts_iff.mpr rfl,
            Outcome.tellsFirst_perform_save tree out content _ output⟩
      case saved =>
        intro succeeded
        obtain ⟨directory, name, saved⟩ := saves succeeded
        exact ⟨content, saved.opened, Database.fileContent_eq_ok_iff.mp formed⟩

/-- A merge of loaded inputs is delivered, whether or not it is saved. -/
theorem delivers_runMerge
    {databases : List Database}
    {merged : MergeOutcome}
    (loaded : loadInputs view inputs = .ok databases)
    (merges : Database.merge databases = .ok merged)
    (out : String)
    (allowsConflicts : Bool)
    (tree : FileTree) :
    Delivers out merged ((runMerge view out inputs allowsConflicts).perform tree) := by
  unfold runMerge
  rw [loaded]
  dsimp only
  rw [merges]
  dsimp only
  split
  · exact delivers_saveDatabase out merged _ tree
  · exact delivers_failure out merged _ [] tree

/-- A merge command whose inputs cannot be loaded fails. -/
theorem exitCode_runMerge_of_error
    {failed : String × Error}
    (refused : loadInputs view inputs = .error failed)
    (out : String)
    (allowsConflicts : Bool)
    (tree : FileTree) :
    ((runMerge view out inputs allowsConflicts).perform tree).1.exitCode = 1 := by
  unfold runMerge
  rw [refused]
  rfl

/-- No two of some databases bind a hash to different texts. -/
def Agree
    (databases : List Database) :
    Prop :=
  ∀ first ∈ databases, ∀ second ∈ databases, ¬ first.Disagrees second

/-- Databases that agree on all hashes, and no others, are merged. -/
theorem agree_iff_exists_merge
    {databases : List Database}
    (reachable : ∀ database ∈ databases, database.Reachable) :
    Agree databases ↔ ∃ outcome, Database.merge databases = .ok outcome := by
  have refuses :=
    Merge.exists_error_iff_disagrees fun input member => (reachable input member).wellFormed
  cases merged : Database.merge databases with
  | error error =>
      obtain ⟨first, firstMember, second, secondMember, disagree⟩ :=
        refuses.mp ⟨error, merged⟩
      refine ⟨fun agree => ?_, nofun⟩
      exact (agree first firstMember second secondMember disagree).elim
  | ok outcome =>
      refine ⟨fun _ => ⟨outcome, rfl⟩, fun _ => ?_⟩
      intro first firstMember second secondMember disagree
      obtain ⟨error, refused⟩ :=
        refuses.mpr ⟨first, firstMember, second, secondMember, disagree⟩
      rw [merged] at refused
      cases refused

/-- When a merge command succeeds. -/
theorem exitCode_merge_eq_zero_iff
    (out : String)
    (inputs : List String)
    (allowsConflicts : Bool)
    (tree : FileTree) :
    ((merge out inputs allowsConflicts).run tree).1.exitCode = 0 ↔
      ∃ databases outcome content,
        List.Forall₂ (LoadsAs tree.openPath) inputs databases ∧
          Agree databases ∧
          Database.merge databases = .ok outcome ∧
          (outcome.conflicts = [] ∨ allowsConflicts = true) ∧
          outcome.database.IsWrittenAs out content ∧
          (tree.save out content).1 = .ok () := by
  show ((runMerge tree.openPath out inputs allowsConflicts).perform tree).1.exitCode = 0 ↔ _
  cases loaded : loadInputs tree.openPath inputs with
  | error failed =>
      rw [exitCode_runMerge_of_error loaded]
      refine ⟨nofun, ?_⟩
      rintro ⟨databases, -, -, loads, -⟩
      rw [loadInputs_eq_ok_iff.mpr loads] at loaded
      cases loaded
  | ok databases =>
      have agrees := agree_iff_exists_merge (reachable_of_loadInputs loaded)
      rw [(exitCode_runMerge tree out allowsConflicts loaded).2]
      simp only [MergeOutcome.isClean, List.isEmpty_iff, Database.fileContent_eq_ok_iff]
      constructor
      · rintro ⟨outcome, content, merges, goesOn, formed, saved⟩
        exact
          ⟨databases, outcome, content, loadInputs_eq_ok_iff.mp loaded,
            agrees.mpr ⟨outcome, merges⟩, merges, goesOn, formed, saved⟩
      · rintro ⟨others, outcome, content, loads, -, merges, goesOn, formed, saved⟩
        obtain rfl : databases = others :=
          Except.ok.inj (loaded.symm.trans (loadInputs_eq_ok_iff.mpr loads))
        exact ⟨outcome, content, merges, goesOn, formed, saved⟩

end Command

open Command

/--
Whatever the command line and the files: a line that is refused and a command that only
reads change nothing; a command that is asked to write changes no file if it fails, and
the file that its path leads to, and no other, if it succeeds.  A merge succeeds exactly if
all inputs load and agree on their names, conflicts are absent or allowed, and the outcome
can be written and saved.  Whenever the inputs agree it tells each conflict of their merge
in a line, in order, and what a successful one leaves under its path is the merge of the
inputs as they were before, in the format that the extension asks for.
-/
theorem commands_all_or_nothing
    (arguments : List String)
    (tree : FileTree) :
    let after := runLine arguments tree
    (∀ refusal, parse arguments = .error refusal → after.2 = tree) ∧
      (∀ command,
        parse arguments = .ok command → command.outPath? = none → after.2 = tree) ∧
      (after.1.exitCode ≠ 0 → tree.SameFiles after.2) ∧
      (∀ command out,
        parse arguments = .ok command →
          command.outPath? = some out →
            after.1.exitCode = 0 →
              ∃ content directory name, tree.Saves after.2 out content directory name) ∧
      ∀ out inputs allowsConflicts,
        parse arguments = .ok (.merge out inputs allowsConflicts) →
          (after.1.exitCode = 0 ↔
            ∃ databases outcome content,
              List.Forall₂ (LoadsAs tree.openPath) inputs databases ∧
                Agree databases ∧
                Database.merge databases = .ok outcome ∧
                (outcome.conflicts = [] ∨ allowsConflicts = true) ∧
                outcome.database.IsWrittenAs out content ∧
                (tree.save out content).1 = .ok ()) ∧
            ∀ databases,
              List.Forall₂ (LoadsAs tree.openPath) inputs databases →
                Agree databases →
                  ∃ outcome,
                    Database.merge databases = .ok outcome ∧ Delivers out outcome after := by
  intro after
  cases parsed : parse arguments with
  | error refusal =>
      have unchanged : after.2 = tree := by
        simp only [after, runLine, parsed]
      refine ⟨fun _ _ => unchanged, nofun, fun _ => ?_, nofun, nofun⟩
      rw [unchanged]
      exact (FileTree.GainsDirectories.refl tree).sameFiles
  | ok command =>
      have runs : after = command.run tree := by
        simp only [after, runLine, parsed]
      clear_value after
      subst runs
      refine ⟨nofun, ?reads, ?fails, ?succeeds, ?merges⟩
      case reads =>
        rintro _ ⟨⟩ reads
        exact run_of_reads reads tree
      case fails =>
        intro failed
        cases writes : command.outPath? with
        | none =>
            rw [run_of_reads writes]
            exact (FileTree.GainsDirectories.refl tree).sameFiles
        | some out =>
            exact (run_of_writes writes tree).2 failed
      case succeeds =>
        rintro _ out ⟨⟩ writes succeeded
        exact (run_of_writes writes tree).1 succeeded
      case merges =>
        rintro out inputs allowsConflicts ⟨⟩
        refine ⟨exitCode_merge_eq_zero_iff out inputs allowsConflicts tree, ?_⟩
        intro databases loads agree
        have loaded := loadInputs_eq_ok_iff.mpr loads
        obtain ⟨outcome, merges⟩ :=
          (agree_iff_exists_merge (reachable_of_loadInputs loaded)).mp agree
        exact
          ⟨outcome, merges, delivers_runMerge loaded merges out allowsConflicts tree⟩

/-- A unit with two types of a size. -/
def penUnit
    (size : UInt32) :
    Database :=
  (Change.addType "Ink" 0 size).apply ((Change.addType "Pen" 0 size).apply Database.empty)

/-- Two units that differ in the sizes of the types, as documents. -/
def penTree : FileTree :=
  ⟨[ (Place.here.child "first.json", .file (penUnit 4).toDocument),
     (Place.here.child "second.JSON", .file (penUnit 8).toDocument) ]⟩

/-- The units as the inputs that they are loaded as. -/
def penInputs : List Database :=
  [ { (penUnit 4).trimmed with source := some "first.json" },
    { (penUnit 8).trimmed with source := some "second.JSON" } ]

theorem penInputs_load :
    List.Forall₂ (LoadsAs penTree.openPath) ["first.json", "second.JSON"] penInputs := by
  have reachable : ∀ size, (penUnit size).Reachable :=
    fun _ => .change _ (.change _ .empty)
  have firstLoaded :
      Database.load penTree.openPath "first.json" = .ok (penUnit 4).trimmed :=
    Database.load_toDocument rfl (by decide) (reachable 4) (by decide +kernel)
  have secondLoaded :
      Database.load penTree.openPath "second.JSON" = .ok (penUnit 8).trimmed :=
    Database.load_toDocument rfl (by decide) (reachable 8) (by decide +kernel)
  exact .cons ⟨_, firstLoaded, rfl⟩ (.cons ⟨_, secondLoaded, rfl⟩ .nil)

/-- The units are merged, conflicts allowed, and the second of them is replaced. -/
def replacingLine : List String :=
  ["merge", "--allow-conflicts", "--out", "second.JSON", "first.json", "second.JSON"]

/-- What the merge of the units tells. -/
def penLines : String :=
  "conflict: type \"Pen\" [d31b7d81f38e5c28] defined differently in " ++
    "first.json and second.JSON\n" ++
    "conflict: type \"Ink\" [617355d34faa1558] defined differently in " ++
    "first.json and second.JSON\n"

/-- The units can be merged, and both types are in conflict. -/
theorem exists_merge_penInputs :
    ∃ outcome,
      Database.merge penInputs = .ok outcome ∧ conflictLines outcome.conflicts = penLines := by
  have lines :
      ((Database.merge penInputs).toOption.map fun outcome =>
          conflictLines outcome.conflicts) =
        some penLines := by
    decide +kernel
  cases merges : Database.merge penInputs with
  | error error =>
      rw [merges] at lines
      cases lines
  | ok outcome =>
      rw [merges] at lines
      exact ⟨outcome, rfl, Option.some.inj lines⟩

/--
The merge succeeds, tells the two conflicts of the units, and replaces the second of them by
the document of their merge.
-/
theorem commands_all_or_nothing_replacingLine :
    ∃ outcome,
      List.Forall₂ (LoadsAs penTree.openPath) ["first.json", "second.JSON"] penInputs ∧
        Database.merge penInputs = .ok outcome ∧
        (runLine replacingLine penTree).1.exitCode = 0 ∧
        (runLine replacingLine penTree).1.errors = penLines ∧
        (runLine replacingLine penTree).2.openPath "second.JSON" =
          .ok (.file outcome.database.toDocument) ∧
        ∃ content directory name,
          penTree.Saves (runLine replacingLine penTree).2 "second.JSON" content directory
            name := by
  have parsed :
      parse replacingLine =
        .ok (.merge "second.JSON" ["first.json", "second.JSON"] true) := by
    decide +kernel
  have isDocument : Path.HasExtension "second.JSON" "json" :=
    Path.isDocument_iff.mp (by decide)
  obtain ⟨outcome, merges, lines⟩ := exists_merge_penInputs
  have agree : Agree penInputs :=
    (agree_iff_exists_merge
      (reachable_of_loadInputs (loadInputs_eq_ok_iff.mpr penInputs_load))).mpr
        ⟨outcome, merges⟩
  obtain ⟨-, -, -, saves, merging⟩ := commands_all_or_nothing replacingLine penTree
  obtain ⟨succeeds, delivers⟩ := merging _ _ _ parsed
  have succeeded : (runLine replacingLine penTree).1.exitCode = 0 := by
    refine
      succeeds.mpr
        ⟨penInputs, outcome, outcome.database.toDocument, penInputs_load, agree, merges,
          .inr rfl, ⟨fun _ => rfl, fun other => (other isDocument).elim⟩, ?_⟩
    rw [FileTree.save_fst_congr penTree "second.JSON" _ []]
    rfl
  obtain ⟨other, otherMerges, delivered⟩ := delivers penInputs penInputs_load agree
  obtain rfl : outcome = other :=
    Except.ok.inj (merges.symm.trans otherMerges)
  obtain ⟨warnings, tells, rest, told, nothingElse, -⟩ := delivered.told
  rw [nothingElse succeeded, String.append_empty, tellsConflicts_iff.mp tells, lines] at told
  obtain ⟨content, opened, asDocument, -⟩ := delivered.saved succeeded
  rw [asDocument isDocument] at opened
  exact
    ⟨outcome, penInputs_load, merges, succeeded, told, opened,
      saves _ _ parsed rfl succeeded⟩

end SymbolDatabase
