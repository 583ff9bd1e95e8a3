namespace SymbolDatabase

/-!
# Paths and places

A path is a text whose segments are separated by slashes.  Empty segments and
segments of one dot do not move; a segment of two dots moves up; any other segment
is a name.  A path with a slash in front starts at the root.

A walk along a path is at some place: at the root, or at the starting directory, or so
many directories above it, and from there down some names.  Which names lead from
the root to the starting directory is not known, so a place above it is known by its
height only.
-/

namespace Path

/-- How many bytes a path may have. -/
def limit : Nat :=
  4095

/-- Whether a path has more bytes than a path may have. -/
def isTooLong
    (path : String) :
    Bool :=
  limit < path.utf8ByteSize

/-- Whether a path starts at the root. -/
def isAbsolute
    (path : String) :
    Bool :=
  path.toList.head? = some '/'

/-- The parts of a text between occurrences of a mark. -/
def splitAtMark
    (mark : Char) :
    List Char → List (List Char)
  | [] =>
      [[]]
  | character :: rest =>
      if character = mark then
        [] :: splitAtMark mark rest
      else
        match splitAtMark mark rest with
        | [] =>
            [[character]]
        | first :: more =>
            (character :: first) :: more

/-- The segments of a path. -/
def segments
    (path : String) :
    List String :=
  (splitAtMark '/' path.toList).map String.ofList

/-- Whether a segment does not move. -/
def isStill
    (segment : String) :
    Bool :=
  segment = "" ∨ segment = "."

/-- Whether a segment is a name. -/
def isName
    (segment : String) :
    Bool :=
  !isStill segment && segment ≠ ".."

/-- The segments of a path that move. -/
def components
    (path : String) :
    List String :=
  (segments path).filter fun segment => !isStill segment

/-- The last component of a path, unless it moves up. -/
def fileName?
    (path : String) :
    Option String :=
  (components path).getLast?.filter isName

/--
The part of a file name after its last dot.  A dot at the start of the name does not
separate anything.
-/
def extension?
    (path : String) :
    Option String := do
  let name ← fileName? path
  let parts := splitAtMark '.' name.toList
  let last ← parts.getLast?
  if parts.length ≤ 1 ∨ parts.dropLast = [[]] then
    none
  else
    some (String.ofList last)

/-- Whether a path names a JSON document, in any case of letters. -/
def isDocument
    (path : String) :
    Bool :=
  match extension? path with
  | some extension =>
      extension.toList.map Char.toLower = ['j', 's', 'o', 'n']
  | none =>
      false

/--
The path of the directory that holds what a path names: the text before its last
component, without segments at its end that do not move.  It is empty for the
directory where relative paths start.
-/
def parent
    (path : String) :
    String :=
  let above :=
    (((segments path).reverse.dropWhile isStill).tail.dropWhile isStill).reverse
  if above.isEmpty ∧ isAbsolute path then "/" else "/".intercalate above

end Path

/-- The directories from which places are named. -/
inductive Anchor where
  /-- The directory at which absolute paths start. -/
  | root
  /-- The directory so many steps above the one at which relative paths start. -/
  | above (steps : Nat)
  deriving Repr, BEq, ReflBEq, LawfulBEq, DecidableEq

/-- An anchor, and the names that lead down from it, the last of them first. -/
structure Place where
  anchor : Anchor
  names : List String
  deriving Repr, BEq, ReflBEq, LawfulBEq, DecidableEq

namespace Place

/-- The root. -/
def root : Place :=
  ⟨.root, []⟩

/-- The starting directory. -/
def here : Place :=
  ⟨.above 0, []⟩

/-- Where a path starts. -/
def start
    (path : String) :
    Place :=
  if Path.isAbsolute path then root else here

/-- One name further down. -/
def child
    (place : Place)
    (name : String) :
    Place :=
  { place with names := name :: place.names }

/-- One step up.  The root is above itself. -/
def parent : Place → Place
  | ⟨anchor, _ :: names⟩ =>
      ⟨anchor, names⟩
  | ⟨.above steps, []⟩ =>
      ⟨.above (steps + 1), []⟩
  | ⟨.root, []⟩ =>
      root

end Place

end SymbolDatabase
