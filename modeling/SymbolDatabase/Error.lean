import SymbolDatabase.Json.Reader
import SymbolDatabase.Text

namespace SymbolDatabase

/-!
# Errors

Each way in which an operation can fail, with the values that describe it.  The
wording of messages, and of the chain of causes behind them, is fixed here.
-/

/-- A refusal of the operating system. -/
inductive SystemFault where
  | notFound
  | alreadyExists
  | notDirectory
  | isDirectory
  | noSuchDevice
  | busy
  | nameTooLong
  /-- A refusal that none of the others describes. -/
  | other (text : String)
  deriving Repr, DecidableEq

namespace SystemFault

/-- The text of a refusal. -/
def message : SystemFault → String
  | .notFound =>
      "No such file or directory (os error 2)"
  | .alreadyExists =>
      "File exists (os error 17)"
  | .notDirectory =>
      "Not a directory (os error 20)"
  | .isDirectory =>
      "Is a directory (os error 21)"
  | .noSuchDevice =>
      "No such device (os error 19)"
  | .busy =>
      "Device or resource busy (os error 16)"
  | .nameTooLong =>
      "File name too long (os error 36)"
  | .other text =>
      text

end SystemFault

/-- Why an operation on a database or one of its files fails. -/
inductive Error where
  /-- A file cannot be opened, read or created. -/
  | system (fault : SystemFault)
  /-- A document is not JSON, or not that of a database. -/
  | json (fault : Json.Fault)
  /-- A finished file cannot be moved into place. -/
  | persist (fault : SystemFault)
  /-- A hash is reserved or bound to another text. -/
  | nameCollision (hash : UInt64) (existing incoming : String)
  /-- A stored hash is not that of its text. -/
  | nameMismatch (text : String) (stored computed : UInt64)
  /-- A file does not start like a database of a known version. -/
  | badHeader
  /-- The stored check value is not that of the content. -/
  | checksumMismatch (stored computed : UInt32)
  /-- Parts of a file contradict one another. -/
  | corrupt
  /-- A record has a tag that belongs to no kind. -/
  | unknownKind (tag : UInt16)
  deriving Repr, DecidableEq

namespace Error

/-- What is wrong with a document. -/
def documentMessage : Json.Fault → String
  | .malformed =>
      "malformed document"
  | .truncated =>
      "document ends too early"
  | .mismatched =>
      "value of another kind expected"
  | .unreadable =>
      "document cannot be read"

/-- What is wrong with moving a file into place. -/
def persistMessage
    (fault : SystemFault) :
    String :=
  "failed to persist temporary file: " ++ fault.message

/-- The text of an error. -/
def message : Error → String
  | .system fault =>
      "IO: " ++ fault.message
  | .json fault =>
      "JSON: " ++ documentMessage fault
  | .persist fault =>
      "Persist: " ++ persistMessage fault
  | .nameCollision hash existing incoming =>
      "name hash collision on " ++ Hexadecimal.ofWord hash ++ ": existing " ++
        Quoted.quote existing ++ ", incoming " ++ Quoted.quote incoming
  | .nameMismatch text stored computed =>
      "name " ++ Quoted.quote text ++ " stored with hash " ++
        Hexadecimal.ofWord stored ++ " but hashes to " ++
        Hexadecimal.ofWord computed
  | .badHeader =>
      "Bad magic or version"
  | .checksumMismatch stored computed =>
      "checksum mismatch: stored " ++ Hexadecimal.ofHalfWord stored ++
        ", computed " ++ Hexadecimal.ofHalfWord computed
  | .corrupt =>
      "Corrupt record"
  | .unknownKind tag =>
      "Unknown primitive kind tag " ++ toString tag.toNat

/-- The text of an error followed by the texts of what caused it. -/
def chain : Error → List String
  | .system fault =>
      [message (.system fault), fault.message]
  | .json fault =>
      [message (.json fault), documentMessage fault]
  | .persist fault =>
      [message (.persist fault), persistMessage fault, fault.message]
  | error =>
      [error.message]

end Error

end SymbolDatabase
