import SymbolDatabase.Command

namespace SymbolDatabase

/-!
# The program

Read what the arguments name, decide, and save at most one file.
-/

namespace Main

/-- The number of a system error, which some calls answer negated. -/
def errorNumber
    (code : UInt32) :
    UInt32 :=
  if code < 0x80000000 then code else -code

/-- The refusal behind an exception. -/
def faultOf : IO.Error → SystemFault
  | .noFileOrDirectory _ _ _ =>
      .notFound
  | .alreadyExists _ _ _ =>
      .alreadyExists
  | .inappropriateType _ code _ =>
      if errorNumber code = 21 then .isDirectory else .notDirectory
  | .invalidArgument _ code details =>
      if errorNumber code = 36 then .nameTooLong else .other details
  | .resourceBusy _ _ =>
      .busy
  | other =>
      .other (toString other)

/-- What a path names. -/
def observe
    (path : String) :
    IO (Except SystemFault Node) := do
  try
    let content ← IO.FS.readBinFile path
    pure (.ok (.file content.data.toList))
  catch exception =>
    match faultOf exception with
    | .isDirectory =>
        pure (.ok .directory)
    | fault =>
        pure (.error fault)

/-- Make one directory, unless it is there already. -/
def makeDirectory
    (path : String) :
    IO Unit := do
  try
    IO.FS.createDir path
  catch exception =>
    match faultOf exception, ← observe path with
    | .alreadyExists, .ok .directory =>
        pure ()
    | _, _ =>
        throw exception

/--
Make a directory, given by the components from the last one up to the first, after
those above it if they are missing.
-/
def makeDirectories
    (start : String) :
    List String → IO Unit
  | [] =>
      pure ()
  | name :: above => do
      let path := start ++ "/".intercalate (name :: above).reverse
      try
        makeDirectory path
      catch exception =>
        match faultOf exception with
        | .notFound =>
            makeDirectories start above
            makeDirectory path
        | _ =>
            throw exception

/-- Save a file beside its place and then move it there. -/
def save
    (path : String)
    (content : Bytes) :
    IO (Except Error Unit) := do
  let parent := Path.parent path
  let start := if Path.isAbsolute path then "/" else "./"
  let temporary := (if parent = "" then "." else parent) ++ "/.refl_unfinished"
  try
    if Path.isTooLong parent then
      return .error (.system .nameTooLong)
    makeDirectories start (Path.components parent).reverse
    IO.FS.writeBinFile temporary ⟨content.toArray⟩
  catch exception =>
    return .error (.system (faultOf exception))
  try
    IO.FS.rename temporary path
    return .ok ()
  catch exception =>
    IO.FS.removeFile temporary
    return .error (.persist (faultOf exception))

/-- Print a report and answer its exit code. -/
def print
    (report : Report) :
    IO UInt32 := do
  (← IO.getStdout).putStr report.output
  (← IO.getStderr).putStr report.errors
  pure (UInt32.ofNat report.exitCode)

/-- Carry out a command on the file system. -/
def run
    (command : Command) :
    IO UInt32 := do
  let observed ←
    command.inputPaths.mapM fun path => do pure (path, ← observe path)
  let view : FileView :=
    fun path => (observed.lookup path).getD (.error .notFound)
  match command.outcome view with
  | .finished report =>
      print report
  | .save path content warnings output =>
      print (Outcome.afterSaving path warnings output (← save path content))

end Main

end SymbolDatabase

/-- Carry out the command line of the program. -/
def main
    (arguments : List String) :
    IO UInt32 :=
  match SymbolDatabase.Command.parse arguments with
  | .ok command =>
      SymbolDatabase.Main.run command
  | .error refusal =>
      SymbolDatabase.Main.print (.ofRefusal refusal)
