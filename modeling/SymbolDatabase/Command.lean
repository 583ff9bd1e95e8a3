import SymbolDatabase.Command.Arguments
import SymbolDatabase.Container
import SymbolDatabase.Files.Tree
import SymbolDatabase.Merge

namespace SymbolDatabase

/-!
# Commands

What each command answers is decided from the files that it reads: either it is
finished with a report, or it saves one file and reports when that is done.  A
command therefore writes at most one file, and only after everything that could
stop it has been checked.
-/

/--
What a command prints, and its exit code.  Log records are left out.  The log goes to the
stream of errors as well; unless it is told otherwise it has a warning for each conflict of a
merge, and an error for each collision of names and for each stored identifier that does not
fit its signature.
-/
structure Report where
  exitCode : Nat
  output : String
  errors : String
  deriving Repr, DecidableEq

namespace Report

/-- Texts, one after another. -/
def joined
    (texts : List String) :
    String :=
  texts.foldl (· ++ ·) ""

/-- A text on a line of its own. -/
def line
    (text : String) :
    String :=
  text ++ "\n"

/-- The causes of an error; several causes are numbered. -/
def causes : List String → String
  | [] =>
      ""
  | [cause] =>
      "\n\nCaused by:\n    " ++ cause
  | several =>
      "\n\nCaused by:" ++
        joined
          (several.zipIdx.map fun (cause, number) =>
            "\n" ++ "    " ++ toString number ++ ": " ++ cause)

/-- The report of a failure, given its text and the texts of its causes. -/
def failure
    (warnings : String)
    (text : String)
    (behind : List String) :
    Report :=
  ⟨1, "", warnings ++ line ("Error: " ++ text ++ causes behind)⟩

/-- The report of an error met while doing something. -/
def failureWhile
    (warnings : String)
    (activity : String)
    (error : Error) :
    Report :=
  failure warnings activity error.chain

/-- The report of an error. -/
def failureOf
    (error : Error) :
    Report :=
  failure "" error.message error.chain.tail

/-- The report of a success. -/
def success
    (warnings : String)
    (output : String) :
    Report :=
  ⟨0, output, warnings⟩

/-- How the program is used. -/
def usage : String :=
  joined
    (List.map line
      [ "Reflection metadata database: merge and inspect",
        "",
        "Usage: refl <COMMAND>",
        "",
        "Commands:",
        "  init    --out <OUT> [--source <SOURCE>]",
        "  merge   --out <OUT> [--allow-conflicts] <INPUTS>...",
        "  info    --db <DB>",
        "  lookup  --db <DB> --kind <KIND> --name <NAME>",
        "  dump    --db <DB>",
        "  verify  --db <DB>" ])

/-- The report when no command is asked for. -/
def ofRefusal : Refusal → Report
  | .help =>
      ⟨0, usage, ""⟩
  | .misuse =>
      ⟨2, "", usage⟩

end Report

/-- What a command does after it has read its files. -/
inductive Outcome where
  /-- It is finished. -/
  | finished (report : Report)
  /-- It saves a file, and then reports with the given warnings and output. -/
  | save (path : String) (content : Bytes) (warnings output : String)
  deriving Repr, DecidableEq

/-- What paths name. -/
abbrev FileView := String → Except SystemFault Node

namespace Database

/-- Load a database from what a path names, in the format that the path asks for. -/
def load
    (view : FileView)
    (path : String) :
    Except Error Database :=
  match view path with
  | .error fault =>
      .error (.system fault)
  | .ok .directory =>
      if Path.isDocument path then
        .error (.json .unreadable)
      else
        .error (.system .noSuchDevice)
  | .ok (.file content) =>
      if Path.isDocument path then ofDocument content else ofContainer content

/-- The content of a file that is to be saved under a path. -/
def fileContent
    (database : Database)
    (path : String) :
    Except Error Bytes :=
  if Path.isDocument path then
    .ok database.toDocument
  else
    database.toContainer

end Database

namespace Command

/-- What a command says that it does with a file. -/
def activity
    (verb path : String) :
    String :=
  verb ++ " " ++ path

/-- Save a database, as far as its content can be formed. -/
def saveDatabase
    (database : Database)
    (path warnings output : String) :
    Outcome :=
  match database.fileContent path with
  | .ok content =>
      .save path content warnings output
  | .error error =>
      .finished (.failureWhile warnings (activity "writing" path) error)

/-- Continue with a database that is loaded, or report why it is not. -/
def withLoaded
    (view : FileView)
    (path : String)
    (next : Database → Outcome) :
    Outcome :=
  match Database.load view path with
  | .ok database =>
      next database
  | .error error =>
      .finished (.failureWhile "" (activity "loading" path) error)

/-- Write the base types. -/
def runInit
    (out : String)
    (source : Option String) :
    Outcome :=
  match Database.withBaseTypes with
  | (.error error, _) =>
      .finished (.failureOf error)
  | (.ok (), database) =>
      saveDatabase { database with source := source } out ""
        (Report.line
          ("init: " ++ out ++ " (" ++ toString database.size ++
            " base types)"))

/-- Load the inputs of a merge in order.  An input without source is known by its path. -/
def loadInputs
    (view : FileView) :
    List String → Except (String × Error) (List Database)
  | [] =>
      .ok []
  | path :: rest =>
      match Database.load view path with
      | .error error =>
          .error (path, error)
      | .ok database =>
          match loadInputs view rest with
          | .error failed =>
              .error failed
          | .ok databases =>
              .ok
                ({ database with source := some (database.source.getD path) } ::
                  databases)

/-- One line for each conflict.  The warning that the log has for it is not among them. -/
def conflictLines
    (conflicts : List Conflict) :
    String :=
  Report.joined
    (conflicts.map fun conflict =>
      Report.line ("conflict: " ++ conflict.message))

/-- Merge databases. -/
def runMerge
    (view : FileView)
    (out : String)
    (inputs : List String)
    (allowsConflicts : Bool) :
    Outcome :=
  match loadInputs view inputs with
  | .error (path, error) =>
      .finished (.failureWhile "" (activity "loading" path) error)
  | .ok databases =>
      match Database.merge databases with
      | .error error =>
          .finished (.failureOf error)
      | .ok outcome =>
          let warnings := conflictLines outcome.conflicts
          let count := toString outcome.conflicts.length
          if outcome.isClean ∨ allowsConflicts then
            saveDatabase outcome.database out warnings
              (Report.line
                ("merge: " ++ toString inputs.length ++ " inputs -> " ++ out ++
                  " (primitives=" ++ toString outcome.database.size ++
                  ", conflicts=" ++ count ++ ")"))
          else
            .finished
              (.failure warnings
                (count ++ " definition conflict(s); nothing written") [])

/-- A text filled with blanks up to a width. -/
def filled
    (width : Nat)
    (text : String) :
    String :=
  String.ofList (text.toList.rightpad width ' ')

/-- What a database holds. -/
def summary
    (database : Database) :
    String :=
  let counts :=
    database.statistics.filter fun (_, count) => 0 < count
  Report.joined
    (List.map Report.line
      ([ "source   : " ++ database.source.getD "-",
         "names    : " ++ toString database.names.names.length,
         "base     : " ++ toString database.hasBaseTypes ] ++
        counts.map fun (kind, count) =>
          filled 14 kind.label ++ " " ++ toString count))

/-- One symbol found by its name. -/
def hit
    (database : Database)
    (kind : Kind)
    (name : String)
    (symbol : Symbol) :
    String :=
  let identifier :=
    match symbol.identifier? with
    | some identifier =>
        " uid=" ++ Hexadecimal.ofWord identifier
    | none =>
        ""
  kind.label ++ " " ++ name ++ " [" ++ Hexadecimal.ofWord symbol.name ++
    "] parent=" ++ Quoted.quote (database.names.resolve symbol.parent).text ++
    " size=" ++ toString symbol.size.toNat ++ identifier

/-- The symbols of a kind with a name, or that there are none. -/
def hits
    (database : Database)
    (kind : Kind)
    (name : String) :
    String :=
  match database.lookupText kind name with
  | [] =>
      Report.line ("no " ++ kind.label ++ " named " ++ Quoted.quote name)
  | found =>
      Report.joined
        (found.map fun symbol => Report.line (hit database kind name symbol))

/-- The text of a document that this library wrote. -/
def documentText
    (document : Bytes) :
    String :=
  (Bytes.toText? document).getD ""

/-- Check a container. -/
def runVerify
    (view : FileView)
    (path : String) :
    Outcome :=
  let failed := fun error =>
    .finished (.failureWhile "" (activity "verifying" path) error)
  match view path with
  | .error fault =>
      failed (.system fault)
  | .ok .directory =>
      failed (.system .noSuchDevice)
  | .ok (.file content) =>
      match Container.check content with
      | .error error =>
          failed error
      | .ok (header, _) =>
          .finished
            (.success ""
              (Report.line
                ("verify: ok version=" ++ toString header.version.toNat ++
                  " names=" ++ toString header.names.toNat ++
                  " primitives=" ++ toString header.symbols.toNat ++
                  " payload=" ++ toString header.payloadLength.toNat ++ "B")))

/-- What a command does, given what paths name. -/
def outcome
    (view : FileView) :
    Command → Outcome
  | .init out source =>
      runInit out source
  | .merge out inputs allowsConflicts =>
      runMerge view out inputs allowsConflicts
  | .info path =>
      withLoaded view path fun database =>
        .finished (.success "" (summary database))
  | .lookup path kind name =>
      withLoaded view path fun database =>
        .finished (.success "" (hits database kind name))
  | .dump path =>
      withLoaded view path fun database =>
        .finished (.success "" (documentText database.toDocument))
  | .verify path =>
      runVerify view path

/-- The paths that a command reads. -/
def inputPaths : Command → List String
  | .init _ _ =>
      []
  | .merge _ inputs _ =>
      inputs
  | .info path | .lookup path _ _ | .dump path | .verify path =>
      [path]

end Command

namespace Outcome

/-- The report when saving a file has succeeded or failed. -/
def afterSaving
    (path warnings output : String) :
    Except Error Unit → Report
  | .ok () =>
      .success warnings output
  | .error error =>
      .failureWhile warnings (Command.activity "writing" path) error

/-- Carry out an outcome on a file tree. -/
def perform
    (tree : FileTree) :
    Outcome → Report × FileTree
  | .finished report =>
      (report, tree)
  | .save path content warnings output =>
      let (saved, changed) := tree.save path content
      (afterSaving path warnings output saved, changed)

end Outcome

namespace Command

/-- Carry out a command on a file tree. -/
def run
    (command : Command)
    (tree : FileTree) :
    Report × FileTree :=
  (command.outcome tree.openPath).perform tree

/-- Carry out a command line on a file tree. -/
def runLine
    (arguments : List String)
    (tree : FileTree) :
    Report × FileTree :=
  match parse arguments with
  | .ok command =>
      command.run tree
  | .error refusal =>
      (.ofRefusal refusal, tree)

end Command

end SymbolDatabase
