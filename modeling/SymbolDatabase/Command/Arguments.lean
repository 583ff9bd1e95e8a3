import SymbolDatabase.Kind

namespace SymbolDatabase

/-!
# Command lines

The command is chosen by the first argument.  Its options are long, take a separate
or an attached value, and may stand in any order and between operands; after two
dashes all that follows are operands.  An option may be given once, and a value that
looks like an option has to be attached.
-/

/-- What the program is asked to do. -/
inductive Command where
  /-- Write a database that holds the base types only. -/
  | init (out : String) (source : Option String)
  /-- Merge databases into one. -/
  | merge (out : String) (inputs : List String) (allowsConflicts : Bool)
  /-- Show what a database holds. -/
  | info (path : String)
  /-- Show the symbols of a kind with a name. -/
  | lookup (path : String) (kind : Kind) (name : String)
  /-- Show the snapshot of a database. -/
  | dump (path : String)
  /-- Check framing and checksum of a container. -/
  | verify (path : String)
  deriving Repr, DecidableEq

/-- Why a command line asks for no command. -/
inductive Refusal where
  /-- It asks for help. -/
  | help
  /-- It is not understood. -/
  | misuse
  deriving Repr, DecidableEq

namespace Arguments

/-- An option of a command. -/
structure Choice where
  name : String
  takesValue : Bool
  accepts : String → Bool

/-- The arguments of a command taken apart. -/
structure Parsed where
  options : List (String × String)
  operands : List String
  deriving Repr, DecidableEq

/-- Arguments without options and operands. -/
def Parsed.none : Parsed :=
  ⟨[], []⟩

/-- The value of an option. -/
def Parsed.value?
    (parsed : Parsed)
    (name : String) :
    Option String :=
  parsed.options.lookup name

/-- Whether an argument may be the separate value of an option. -/
def isPlain
    (argument : String) :
    Bool :=
  match argument.toList with
  | '-' :: _ :: _ =>
      false
  | _ =>
      true

/-- A path argument may not be empty. -/
def isPath
    (argument : String) :
    Bool :=
  argument ≠ ""

/-- Add an operand. -/
def addOperand
    (takesOperands : Bool)
    (argument : String)
    (parsed : Parsed) :
    Except Refusal Parsed :=
  if takesOperands ∧ isPath argument then
    .ok { parsed with operands := parsed.operands ++ [argument] }
  else
    .error .misuse

/-- Add an option with its value. -/
def addOption
    (choice : Choice)
    (value : String)
    (parsed : Parsed) :
    Except Refusal Parsed :=
  if (parsed.value? choice.name).isNone ∧ choice.accepts value then
    .ok { parsed with options := parsed.options ++ [(choice.name, value)] }
  else
    .error .misuse

/-- The name of an option and its attached value. -/
def splitAttached
    (text : List Char) :
    String × Option String :=
  match text.dropWhile fun character => character ≠ '=' with
  | [] =>
      (String.ofList text, none)
  | _ :: value =>
      ( String.ofList (text.takeWhile fun character => character ≠ '='),
        some (String.ofList value) )

/-- Take all arguments as operands. -/
def scanOperands
    (takesOperands : Bool) :
    List String → Parsed → Except Refusal Parsed
  | [], parsed =>
      .ok parsed
  | argument :: rest, parsed =>
      match addOperand takesOperands argument parsed with
      | .ok extended =>
          scanOperands takesOperands rest extended
      | .error refusal =>
          .error refusal

/-- Take the arguments of a command apart. -/
def scan
    (choices : List Choice)
    (takesOperands : Bool) :
    List String → Parsed → Except Refusal Parsed
  | [], parsed =>
      .ok parsed
  | argument :: rest, parsed =>
      match argument.toList with
      | ['-', '-'] =>
          scanOperands takesOperands rest parsed
      | '-' :: '-' :: text =>
          let (name, attached?) := splitAttached text
          if name = "help" then
            .error (if attached?.isSome then .misuse else .help)
          else
            match choices.find? fun choice => choice.name = name with
            | none =>
                .error .misuse
            | some choice =>
                match choice.takesValue, attached? with
                | false, some _ =>
                    .error .misuse
                | false, none =>
                    match addOption choice "" parsed with
                    | .ok extended =>
                        scan choices takesOperands rest extended
                    | .error refusal =>
                        .error refusal
                | true, some value =>
                    match addOption choice value parsed with
                    | .ok extended =>
                        scan choices takesOperands rest extended
                    | .error refusal =>
                        .error refusal
                | true, none =>
                    match rest with
                    | [] =>
                        .error .misuse
                    | value :: following =>
                        if isPlain value then
                          match addOption choice value parsed with
                          | .ok extended =>
                              scan choices takesOperands following extended
                          | .error refusal =>
                              .error refusal
                        else
                          .error .misuse
      | '-' :: 'h' :: _ =>
          .error .help
      | '-' :: _ :: _ =>
          .error .misuse
      | _ =>
          match addOperand takesOperands argument parsed with
          | .ok extended =>
              scan choices takesOperands rest extended
          | .error refusal =>
              .error refusal

/-- An option whose value is a path. -/
def pathChoice
    (name : String) :
    Choice :=
  ⟨name, true, isPath⟩

/-- An option whose value is any text. -/
def textChoice
    (name : String) :
    Choice :=
  ⟨name, true, fun _ => true⟩

/-- An option whose value is the label of a kind. -/
def kindChoice
    (name : String) :
    Choice :=
  ⟨name, true, fun label => (Kind.ofLabel? label).isSome⟩

/-- An option without a value. -/
def switchChoice
    (name : String) :
    Choice :=
  ⟨name, false, fun _ => true⟩

/-- Something that has to be given. -/
def required
    {α : Type} :
    Option α → Except Refusal α
  | some given =>
      .ok given
  | none =>
      .error .misuse

/-- The arguments of a command that only reads one database. -/
def databasePath
    (arguments : List String) :
    Except Refusal String := do
  let parsed ← scan [pathChoice "db"] false arguments .none
  required (parsed.value? "db")

end Arguments

namespace Command

open Arguments

/-- The names of the commands. -/
def commandNames : List String :=
  ["init", "merge", "info", "lookup", "dump", "verify"]

/-- The command that a command line asks for. -/
def parse : List String → Except Refusal Command
  | "init" :: arguments => do
      let parsed ←
        scan [pathChoice "out", textChoice "source"] false arguments .none
      let out ← required (parsed.value? "out")
      pure (.init out (parsed.value? "source"))
  | "merge" :: arguments => do
      let parsed ←
        scan [pathChoice "out", switchChoice "allow-conflicts"] true arguments
          .none
      let out ← required (parsed.value? "out")
      if parsed.operands.isEmpty then
        .error .misuse
      else
        pure
          (.merge out parsed.operands
            (parsed.value? "allow-conflicts").isSome)
  | "info" :: arguments => do
      return .info (← databasePath arguments)
  | "lookup" :: arguments => do
      let parsed ←
        scan [pathChoice "db", kindChoice "kind", textChoice "name"] false
          arguments .none
      let path ← required (parsed.value? "db")
      let kind ← required ((parsed.value? "kind").bind Kind.ofLabel?)
      let name ← required (parsed.value? "name")
      pure (.lookup path kind name)
  | "dump" :: arguments => do
      return .dump (← databasePath arguments)
  | "verify" :: arguments => do
      return .verify (← databasePath arguments)
  | ["help"] | "--help" :: _ =>
      .error .help
  | ["help", topic] =>
      .error (if topic ∈ "help" :: commandNames then .help else .misuse)
  | argument :: _ =>
      match argument.toList with
      | '-' :: 'h' :: _ =>
          .error .help
      | _ =>
          .error .misuse
  | [] =>
      .error .misuse

end Command

end SymbolDatabase
