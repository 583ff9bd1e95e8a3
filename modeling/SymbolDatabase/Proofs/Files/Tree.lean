import Mathlib.Data.List.Basic
import SymbolDatabase.Files.Tree

namespace SymbolDatabase

/-!
# What saving leaves of a file tree

Saving a file first makes directories where nothing stood, and then puts the file at one
place.  If it fails, directories may have been added, but every file is as it was.  If it
succeeds, the path leads to the file that was saved, and every other file is as it was.
-/

namespace FileTree

variable {tree middle later : FileTree} {place : Place} {path : String}

/-- What a file holds, if one stands at a place. -/
def content?
    (tree : FileTree)
    (place : Place) :
    Option Bytes :=
  match tree.node? place with
  | some (.file content) =>
      some content
  | _ =>
      none

/-- Only directories were added to a tree, where nothing stood. -/
def GainsDirectories
    (tree later : FileTree) :
    Prop :=
  ∀ place,
    later.node? place = tree.node? place ∨
      tree.node? place = none ∧ later.node? place = some .directory

/-- Every directory of a tree is there later. -/
def KeepsDirectories
    (tree later : FileTree) :
    Prop :=
  ∀ place, tree.node? place = some .directory → later.node? place = some .directory

/--
A path leads through directories into one of them, and names something there.  Nothing
has to stand under the name.
-/
structure LeadsTo
    (tree : FileTree)
    (path : String)
    (directory : Place)
    (name : String) :
    Prop where
  fits :
    Path.isTooLong path = false
  walked :
    tree.walk (Place.start path) (Path.segments path).dropLast = .ok directory
  last :
    (Path.segments path).getLastD "" = name
  isName :
    Path.isName name = true
  short :
    name.utf8ByteSize ≤ nameLimit

/-! ## Names inside directories -/

theorem node?_child_put_self
    (tree : FileTree)
    (directory : Place)
    (name : String)
    (node : Node) :
    (tree.put (directory.child name) node).node? (directory.child name) = some node := by
  rw [node?_put, if_neg (by simp [Place.child]), if_pos rfl]

/-- What stands at other places is left alone. -/
theorem node?_put_of_ne
    (tree : FileTree)
    {query : Place}
    (apart : query ≠ place)
    (node : Node) :
    (tree.put place node).node? query = tree.node? query := by
  rw [node?_put]
  by_cases anchored : query.names = []
  · rw [if_pos anchored, node?, if_pos anchored]
  · rw [if_neg anchored, if_neg apart]

/-- Equal nodes hold equal contents. -/
theorem content?_congr
    (same : later.node? place = tree.node? place) :
    later.content? place = tree.content? place := by
  rw [content?, content?, same]

theorem find_of_short
    (tree : FileTree)
    (directory : Place)
    {name : String}
    (short : name.utf8ByteSize ≤ nameLimit) :
    tree.find directory name = .ok (tree.node? (directory.child name)) := by
  rw [find, if_neg (Nat.not_lt.mpr short)]

/-- A name that can be found is short enough, and stands for what is at its place. -/
theorem find_eq_ok
    {directory : Place}
    {name : String}
    {found : Option Node}
    (finds : tree.find directory name = .ok found) :
    name.utf8ByteSize ≤ nameLimit ∧ tree.node? (directory.child name) = found := by
  unfold find at finds
  split at finds
  next =>
    cases finds
  next notTooLong =>
    exact ⟨Nat.not_lt.mp notTooLong, Except.ok.inj finds⟩

/-! ## Directories that stay -/

/-- Where directories stay, a step leads where it led before. -/
theorem KeepsDirectories.enter
    (keeps : tree.KeepsDirectories later)
    {segment : String}
    {reached : Place}
    (entered : tree.enter place segment = .ok reached) :
    later.enter place segment = .ok reached := by
  unfold FileTree.enter at entered ⊢
  split at entered
  next still =>
    rw [if_pos still]
    exact entered
  next moves =>
    rw [if_neg moves]
    split at entered
    next up =>
      rw [if_pos up]
      exact entered
    next down =>
      rw [if_neg down]
      split at entered
      case h_1 | h_2 | h_3 =>
        cases entered
      case h_4 finds =>
        obtain ⟨short, stands⟩ := find_eq_ok finds
        rw [later.find_of_short place short, keeps _ stands]
        exact entered

/-- Where directories stay, a walk leads where it led before. -/
theorem KeepsDirectories.walk
    (keeps : tree.KeepsDirectories later)
    {segments : List String}
    {reached : Place}
    (walked : tree.walk place segments = .ok reached) :
    later.walk place segments = .ok reached := by
  induction segments generalizing place with
  | nil =>
      exact walked
  | cons segment rest inductionHypothesis =>
      rw [FileTree.walk, List.foldlM_cons] at walked ⊢
      cases entered : tree.enter place segment with
      | error fault =>
          rw [entered] at walked
          cases walked
      | ok next =>
          rw [entered] at walked
          rw [keeps.enter entered]
          exact inductionHypothesis walked

/-- Where directories stay, a path leads where it led before. -/
theorem LeadsTo.mono
    {directory : Place}
    {name : String}
    (leads : tree.LeadsTo path directory name)
    (keeps : tree.KeepsDirectories later) :
    later.LeadsTo path directory name :=
  { leads with walked := keeps.walk leads.walked }

/-! ## What paths lead to -/

/-- A computation that succeeded did so in both of its parts. -/
theorem exists_of_bind_eq_ok
    {α β : Type}
    {first : Except SystemFault α}
    {next : α → Except SystemFault β}
    {result : β}
    (succeeded : first >>= next = .ok result) :
    ∃ found, first = .ok found ∧ next found = .ok result := by
  cases first with
  | error fault =>
      cases succeeded
  | ok found =>
      exact ⟨found, rfl, succeeded⟩

/-- A path that leads to a place opens what stands there. -/
theorem LeadsTo.openPath_eq
    {directory : Place}
    {name : String}
    (leads : tree.LeadsTo path directory name) :
    tree.openPath path =
      match tree.node? (directory.child name) with
      | some node =>
          .ok node
      | none =>
          .error .notFound := by
  have notEmpty : path ≠ "" := by
    rintro rfl
    have isName := leads.isName
    rw [← leads.last] at isName
    exact absurd isName (by decide)
  unfold openPath
  rw [if_neg notEmpty, leads.fits]
  simp only [Bool.false_eq_true, ↓reduceIte, leads.last, leads.walked]
  show (if _ then _ else _) = _
  rw [if_pos leads.isName, tree.find_of_short directory leads.short]
  rfl

/-- A path that opens a file leads to its place. -/
theorem exists_leadsTo_of_openPath
    {content : Bytes}
    (opened : tree.openPath path = .ok (.file content)) :
    ∃ directory name,
      tree.LeadsTo path directory name ∧
        tree.node? (directory.child name) = some (.file content) := by
  unfold openPath at opened
  split at opened
  next =>
    cases opened
  next =>
    split at opened
    next =>
      cases opened
    next fits =>
      obtain ⟨directory, walked, opened⟩ := exists_of_bind_eq_ok opened
      split at opened
      next isName =>
        obtain ⟨found, finds, opened⟩ := exists_of_bind_eq_ok opened
        obtain ⟨short, stands⟩ := find_eq_ok finds
        cases found with
        | none =>
            cases opened
        | some node =>
            obtain rfl : node = .file content := Except.ok.inj opened
            exact
              ⟨directory, _, ⟨by simpa using fits, walked, rfl, isName, short⟩, stands⟩
      next =>
        cases opened

/-- The place at which a file may be put is the one that its path leads to. -/
theorem exists_leadsTo_of_target
    (found : tree.target path = .ok place) :
    ∃ directory name,
      tree.LeadsTo path directory name ∧
        place = directory.child name ∧
        tree.node? place ≠ some .directory := by
  unfold target at found
  split at found
  next =>
    cases found
  next fits =>
    obtain ⟨directory, walked, found⟩ := exists_of_bind_eq_ok found
    split at found
    next isName =>
      obtain ⟨present?, finds, found⟩ := exists_of_bind_eq_ok found
      obtain ⟨short, stands⟩ := find_eq_ok finds
      split at found
      next =>
        cases found
      next noneDropped =>
        split at found
        next =>
          cases found
        next notDirectory =>
          obtain rfl : directory.child _ = place := Except.ok.inj found
          -- No empty segment stood behind the name, so the name is the last segment.
          have whole :
              ((Path.segments path).reverse.dropWhile fun segment => segment = "").reverse =
                Path.segments path := by
            rw [List.reverse_eq_iff]
            refine (List.dropWhile_suffix _).eq_of_length_le ?_
            rw [List.length_reverse] at noneDropped ⊢
            exact Nat.le_of_not_lt noneDropped
          rw [whole] at walked isName short stands ⊢
          refine
            ⟨directory, _, ⟨by simpa using fits, walked, rfl, isName, short⟩, rfl, ?_⟩
          rw [stands]
          exact notDirectory
    next =>
      cases found

/-! ## Directories that are made -/

namespace GainsDirectories

theorem refl
    (tree : FileTree) :
    tree.GainsDirectories tree :=
  fun _ => .inl rfl

theorem trans
    (first : tree.GainsDirectories middle)
    (second : middle.GainsDirectories later) :
    tree.GainsDirectories later := by
  intro place
  rcases second place with same | ⟨missing, made⟩
  · rw [same]
    exact first place
  · rcases first place with same | ⟨-, alreadyMade⟩
    · exact .inr ⟨same ▸ missing, made⟩
    · rw [alreadyMade] at missing
      cases missing

/-- A directory is made where nothing stood. -/
theorem put
    (missing : tree.node? place = none) :
    tree.GainsDirectories (tree.put place .directory) := by
  intro query
  by_cases same : query = place
  · subst same
    refine .inr ⟨missing, ?_⟩
    rw [node?_put, if_pos rfl, ite_self]
  · exact .inl (tree.node?_put_of_ne same _)

/-- Making what is missing on the way makes directories only, also where it fails. -/
theorem makeMissing
    (tree : FileTree)
    (place : Place)
    (hasMade : Bool)
    (components : List String) :
    tree.GainsDirectories (tree.makeMissing place hasMade components).2 := by
  -- A directory that is made changes the tree for the rest of the way.
  induction components generalizing tree place hasMade with
  | nil =>
      exact .refl tree
  | cons component rest inductionHypothesis =>
      unfold FileTree.makeMissing
      split
      next =>
        exact inductionHypothesis tree place.parent hasMade
      next =>
        split
        case h_1 fault _ =>
          exact .refl tree
        case h_2 =>
          exact inductionHypothesis tree (place.child component) hasMade
        case h_3 =>
          split <;> exact .refl tree
        case h_4 finds =>
          exact (put (find_eq_ok finds).2).trans
            (inductionHypothesis _ (place.child component) true)

theorem makeDirectories
    (tree : FileTree)
    (path : String) :
    tree.GainsDirectories (tree.makeDirectories path).2 := by
  unfold FileTree.makeDirectories
  split
  · exact .refl tree
  · exact .makeMissing tree _ _ _

/-- What stood somewhere stands there later. -/
theorem node?_eq_some
    (gains : tree.GainsDirectories later)
    {node : Node}
    (stands : tree.node? place = some node) :
    later.node? place = some node := by
  rcases gains place with same | ⟨missing, -⟩
  · rw [same, stands]
  · rw [missing] at stands
    cases stands

theorem keepsDirectories
    (gains : tree.GainsDirectories later) :
    tree.KeepsDirectories later :=
  fun _ stands => gains.node?_eq_some stands

/-- No file comes or goes where directories are added. -/
theorem content?_eq
    (gains : tree.GainsDirectories later)
    (place : Place) :
    later.content? place = tree.content? place := by
  rcases gains place with same | ⟨missing, made⟩
  · exact content?_congr same
  · rw [content?, content?, missing, made]

end GainsDirectories

/-! ## Files that are saved -/

/--
No file of a tree has changed, come or gone, and each is opened by the paths that did so
before.  Directories may have been added.
-/
structure SameFiles
    (tree later : FileTree) :
    Prop where
  gains :
    tree.GainsDirectories later
  contents :
    ∀ place, later.content? place = tree.content? place
  opened :
    ∀ path content,
      tree.openPath path = .ok (.file content) →
        later.openPath path = .ok (.file content)

/--
A path leads to a file with a content, and all other files of a tree are as they were.
Where no file was, none has come, except the one that the path leads to; and directories
have not gone.
-/
structure Saves
    (tree later : FileTree)
    (path : String)
    (content : Bytes)
    (directory : Place)
    (name : String) :
    Prop where
  leads :
    later.LeadsTo path directory name
  opened :
    later.openPath path = .ok (.file content)
  others :
    ∀ place, place ≠ directory.child name → later.content? place = tree.content? place
  keeps :
    tree.KeepsDirectories later

theorem GainsDirectories.sameFiles
    (gains : tree.GainsDirectories later) :
    tree.SameFiles later where
  gains :=
    gains
  contents :=
    gains.content?_eq
  opened path content opened := by
    obtain ⟨directory, name, leads, stands⟩ := exists_leadsTo_of_openPath opened
    rw [(leads.mono gains.keepsDirectories).openPath_eq, gains.node?_eq_some stands]

/-- A file that is put where no directory stands changes nothing else. -/
theorem saves_put
    (gains : tree.GainsDirectories later)
    {directory : Place}
    {name : String}
    (leads : later.LeadsTo path directory name)
    (notDirectory : later.node? (directory.child name) ≠ some .directory)
    (content : Bytes) :
    tree.Saves (later.put (directory.child name) (.file content)) path content
      directory name := by
  have keeps :
      later.KeepsDirectories (later.put (directory.child name) (.file content)) := by
    intro place stands
    have apart : place ≠ directory.child name := by
      rintro rfl
      exact notDirectory stands
    rw [later.node?_put_of_ne apart, stands]
  have leadsLater := leads.mono keeps
  refine ⟨leadsLater, ?opened, ?others, ?keeps⟩
  case opened =>
    rw [leadsLater.openPath_eq, node?_child_put_self]
  case others =>
    intro place apart
    rw [← gains.content?_eq]
    exact content?_congr (later.node?_put_of_ne apart _)
  case keeps =>
    exact fun place stands => keeps place (gains.keepsDirectories place stands)

/-- Saving puts one file in place, or fails and leaves every file as it was. -/
theorem save_or_sameFiles
    (tree : FileTree)
    (path : String)
    (content : Bytes) :
    ((tree.save path content).1 = .ok () →
        ∃ directory name,
          tree.Saves (tree.save path content).2 path content directory name) ∧
      ((tree.save path content).1 ≠ .ok () →
        tree.SameFiles (tree.save path content).2) := by
  have gains := GainsDirectories.makeDirectories tree (Path.parent path)
  unfold save
  rcases made : tree.makeDirectories (Path.parent path) with ⟨fault | done, changed⟩
  all_goals
    rw [made] at gains
  · exact ⟨nofun, fun _ => gains.sameFiles⟩
  · dsimp only
    cases found : changed.target path with
    | error fault =>
        exact ⟨nofun, fun _ => gains.sameFiles⟩
    | ok place =>
        refine ⟨fun _ => ?_, fun failed => (failed rfl).elim⟩
        obtain ⟨directory, name, leads, rfl, notDirectory⟩ := exists_leadsTo_of_target found
        exact ⟨directory, name, saves_put gains leads notDirectory content⟩

end FileTree

end SymbolDatabase
