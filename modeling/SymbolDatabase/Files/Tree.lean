import SymbolDatabase.Error
import SymbolDatabase.Files.Path

namespace SymbolDatabase

/-!
# File trees

The files and directories that are known, by their places.  Opening a path answers
what it names or why it names nothing.  Saving a file first makes the directories
around it, and then puts the whole content in place at once or not at all.
-/

/-- What a path can name. -/
inductive Node where
  | directory
  | file (content : Bytes)
  deriving Repr, DecidableEq

/-- Files and directories by their places.  The anchors of places are always there. -/
structure FileTree where
  entries : List (Place × Node)
  deriving Repr, DecidableEq

namespace FileTree

/-- The tree without entries. -/
def empty : FileTree :=
  ⟨[]⟩

/-- What stands at a place. -/
def node?
    (tree : FileTree)
    (place : Place) :
    Option Node :=
  if place.names = [] then some .directory else tree.entries.lookup place

/-- Put something at a place, instead of what stood there. -/
def put
    (tree : FileTree)
    (place : Place)
    (node : Node) :
    FileTree :=
  ⟨(place, node) :: tree.entries.filter fun entry => entry.1 != place⟩

/-- How many bytes a name may have. -/
def nameLimit : Nat :=
  255

/-- What a name stands for inside a directory. -/
def find
    (tree : FileTree)
    (place : Place)
    (name : String) :
    Except SystemFault (Option Node) :=
  if nameLimit < name.utf8ByteSize then
    .error .nameTooLong
  else
    .ok (tree.node? (place.child name))

/-- Move from a directory by one segment of a path. -/
def enter
    (tree : FileTree)
    (place : Place)
    (segment : String) :
    Except SystemFault Place :=
  if Path.isStill segment then
    .ok place
  else if segment = ".." then
    .ok place.parent
  else
    match tree.find place segment with
    | .error fault =>
        .error fault
    | .ok none =>
        .error .notFound
    | .ok (some (.file _)) =>
        .error .notDirectory
    | .ok (some .directory) =>
        .ok (place.child segment)

/-- Move from a directory by several segments of a path. -/
def walk
    (tree : FileTree)
    (place : Place)
    (segments : List String) :
    Except SystemFault Place :=
  segments.foldlM tree.enter place

/-- Open what a path names. -/
def openPath
    (tree : FileTree)
    (path : String) :
    Except SystemFault Node := do
  if path = "" then
    .error .notFound
  else if Path.isTooLong path then
    .error .nameTooLong
  else
    let segments := Path.segments path
    let last := segments.getLastD ""
    let place ← tree.walk (Place.start path) segments.dropLast
    if Path.isName last then
      match ← tree.find place last with
      | some node =>
          .ok node
      | none =>
          .error .notFound
    else
      .ok .directory

/--
Make the directories that are missing on the way down some components.  A file that
stands before the last of them is not a directory to go through; but once a directory
had to be made, all further ones are made in turn, and a file that stands in the way
is there already.
-/
def makeMissing
    (tree : FileTree)
    (place : Place)
    (hasMade : Bool) :
    List String → Except SystemFault Unit × FileTree
  | [] =>
      (.ok (), tree)
  | component :: rest =>
      if component = ".." then
        makeMissing tree place.parent hasMade rest
      else
        match tree.find place component with
        | .error fault =>
            (.error fault, tree)
        | .ok (some .directory) =>
            makeMissing tree (place.child component) hasMade rest
        | .ok (some (.file _)) =>
            if hasMade ∨ rest.isEmpty then
              (.error .alreadyExists, tree)
            else
              (.error .notDirectory, tree)
        | .ok none =>
            makeMissing (tree.put (place.child component) .directory)
              (place.child component) true rest

/-- Make the directory that a path names, and those on the way to it. -/
def makeDirectories
    (tree : FileTree)
    (path : String) :
    Except SystemFault Unit × FileTree :=
  if Path.isTooLong path then
    (.error .nameTooLong, tree)
  else
    tree.makeMissing (Place.start path) false (Path.components path)

/-- The place at which a finished file may be put for a path. -/
def target
    (tree : FileTree)
    (path : String) :
    Except SystemFault Place := do
  if Path.isTooLong path then
    .error .nameTooLong
  else
    let segments := Path.segments path
    let named := (segments.reverse.dropWhile fun segment => segment = "").reverse
    let last := named.getLastD ""
    let place ← tree.walk (Place.start path) named.dropLast
    if Path.isName last then
      let present? ← tree.find place last
      if named.length < segments.length then
        .error .notDirectory
      else if present? = some .directory then
        .error .isDirectory
      else
        .ok (place.child last)
    else
      .error .busy

/-- Save a file under a path. -/
def save
    (tree : FileTree)
    (path : String)
    (content : Bytes) :
    Except Error Unit × FileTree :=
  match tree.makeDirectories (Path.parent path) with
  | (.error fault, made) =>
      (.error (.system fault), made)
  | (.ok (), made) =>
      match made.target path with
      | .error fault =>
          (.error (.persist fault), made)
      | .ok place =>
          (.ok (), made.put place (.file content))

/-- Leaving out what stands at one place changes no other look-up. -/
theorem lookup_filter_of_ne
    {place query : Place}
    (different : query ≠ place)
    (entries : List (Place × Node)) :
    (entries.filter fun entry => entry.1 != place).lookup query =
      entries.lookup query := by
  induction entries with
  | nil =>
      rfl
  | cons entry rest inductionHypothesis =>
      obtain ⟨other, held⟩ := entry
      by_cases gone : other = place
      · subst gone
        simpa [List.lookup_cons, beq_eq_false_iff_ne.2 different] using
          inductionHypothesis
      · simp [List.lookup_cons, gone, inductionHypothesis]

/-- What was put at a place stands there, and nothing else has changed. -/
theorem node?_put
    (tree : FileTree)
    (place query : Place)
    (node : Node) :
    (tree.put place node).node? query =
      if query.names = [] then
        some .directory
      else if query = place then
        some node
      else
        tree.node? query := by
  by_cases anchored : query.names = []
  · simp [node?, anchored]
  · by_cases same : query = place
    · simp [node?, put, same]
    · simp [node?, put, anchored, same, List.lookup_cons,
        beq_eq_false_iff_ne.2 same, lookup_filter_of_ne same]

end FileTree

end SymbolDatabase
