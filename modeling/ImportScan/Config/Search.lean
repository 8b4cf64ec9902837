import ImportScan.Config.Json
import ImportScan.FileTree

/-!
# The configuration in force

A configuration is looked for in the working folder and in the folders above it, up to the first one
that holds a repository.

## Main definitions

* `Config.ofFile` — the configuration in a file that has been found.
* `FileTree.finds` — whether a folder holds something with a name.
* `Search`, `FileTree.search` — what a folder means for the search.
* `FileTree.findConfig` — the nearest folder with a configuration.
* `FileTree.loadConfig` — the configuration in force.

## Main results

* `FileTree.search_eq` — what a folder means is told by what stands in it.
-/

namespace ImportScan

/-- The configuration in a file, given what reading the file gave. -/
def Config.ofFile (path : String) : Except ReadFault String → Except Failure Config
  | .error fault => .error ⟨"Failed to read config file: " ++ quoted path, [fault.message]⟩
  | .ok text =>
    match Config.parse text with
    | .ok c => .ok c
    | .error _ => .error ⟨"Failed to parse config file: " ++ quoted path, []⟩

/-- The name that marks the folder of a repository. -/
def repositoryName : String := ".git"

/-- What a folder means for the search. -/
inductive Search where
  /-- The configuration is here. -/
  | found
  /-- There is none, and the search ends here. -/
  | ended
  /-- There is none here. -/
  | goesOn
  deriving DecidableEq, Repr, Inhabited

/-- What a folder means for the search, told by the names that stand in it. -/
def Search.ofNames (hasConfig hasRepository : Bool) : Search :=
  if hasConfig then .found else if hasRepository then .ended else .goesOn

namespace FileTree

/-- Whether a folder holds something with a name.  The name is looked up as any other path. -/
def finds (t : FileTree) (folder : Place) (name : String) : Bool :=
  t.isThere folder ⟨false, [.name name]⟩

/-- What a folder means for the search. -/
def search (t : FileTree) (folder : Place) : Search :=
  .ofNames (t.finds folder configFileName) (t.finds folder repositoryName)

/-- Search a folder and the folders above it.  The folder is given by its names, the last one first. -/
def searchUp (t : FileTree) : List String → Option Place
  | [] =>
    match t.search [] with
    | .found => some []
    | _ => none
  | name :: above =>
    match t.search (name :: above).reverse with
    | .found => some (name :: above).reverse
    | .ended => none
    | .goesOn => t.searchUp above

/-- The nearest folder with a configuration, from a folder upwards. -/
def findConfig (t : FileTree) (folder : Place) : Option Place := t.searchUp folder.reverse

/-- The configuration in force in a folder. -/
def loadConfig (t : FileTree) (folder : Place) : Except Failure Config :=
  match t.findConfig folder with
  | none => .ok Config.default
  | some found =>
    let place := found ++ [configFileName]
    Config.ofFile (placeText place) (t.textAt place)

theorem finds_configFileName (t : FileTree) (folder : Place) :
    t.finds folder configFileName = t.holds (folder ++ [configFileName]) :=
  t.isThere_name folder (by decide) (by decide)

theorem finds_repositoryName (t : FileTree) (folder : Place) :
    t.finds folder repositoryName = t.holds (folder ++ [repositoryName]) :=
  t.isThere_name folder (by decide) (by decide)

/-- What a folder means for the search is told by what stands in it, however deep it lies. -/
theorem search_eq (t : FileTree) (folder : Place) : t.search folder =
    .ofNames (t.holds (folder ++ [configFileName])) (t.holds (folder ++ [repositoryName])) := by
  rw [search, finds_configFileName, finds_repositoryName]

end FileTree

end ImportScan
