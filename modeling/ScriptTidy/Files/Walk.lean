import ScriptTidy.Files.IgnoreRules
import ScriptTidy.Syntax.Dialect

/-!
# Walking directories

Which source files lie in a directory. Folders that hold no sources of the project are skipped, and so is what the
ignore rules of the folders name. The walk does not depend on the order in which the file system lists its entries.
-/

namespace ScriptTidy

/-- Folders that are skipped unless they are asked for by name. -/
def standardExclusions : List String :=
  ["node_modules", "dist", "build", "coverage", "out", ".git", ".next", ".nuxt", ".cache", ".turbo"]

/-- A name is excluded: it is one of the names given, or ends like one that starts with a star and a dot. -/
def isExcluded (exclusions : List String) (name : String) : Bool :=
  exclusions.any fun e =>
    if e.startsWith "*." then name.endsWith (e.drop 1).toString else name = e

/-- What a walk has found. -/
structure Walk where
  /-- The source files in the order of their paths. -/
  files : List String
  /-- The number of directories visited, without the one where the walk starts. -/
  directories : Nat
  deriving DecidableEq, Repr

namespace Walk

/-- The rules of the folders above a location, the nearest first. -/
def rulesAbove (fs : FileSystem) (location : Location) : List FolderRules :=
  (FileSystem.waypoints location.dropLast).reverse.map (FolderRules.ofFolder fs)

/-- A walk goes to the location, if it has reached the folder around it. -/
def admits (fs : FileSystem) (exclusions : List String) (location : Location) : Bool :=
  let isDirectory := fs.entry? location = some .directory
  let name := location.getLastD ""
  !(isDirectory && (standardExclusions.contains name || isExcluded exclusions name)) &&
    !FolderRules.ignores (rulesAbove fs location) location isDirectory

/-- The names on the way from one location to another below it. -/
def below? (root location : Location) : Option (List String) :=
  if root.isPrefixOf location && location.length != root.length then some (location.drop root.length) else none

/-- A walk from `root` reaches what lies below it on the way given. -/
def reaches (fs : FileSystem) (exclusions : List String) (root : Location) (way : List String) : Bool :=
  (FileSystem.waypoints way).tail.all fun w => admits fs exclusions (root ++ w)

/-- What a walk from `root` reaches, by the way from there. -/
def visited (fs : FileSystem) (exclusions : List String) (root : Location) : List (List String × Entry) :=
  fs.entries.filterMap fun (location, entry) =>
    match below? root location with
    | some way => if reaches fs exclusions root way then some (way, entry) else none
    | none => none

/-- Walk the directory at a path. -/
def ofDirectory (fs : FileSystem) (exclusions : List String) (path : String) : Walk :=
  match fs.locate path with
  | .error _ => ⟨[], 0⟩
  | .ok root =>
    let found := visited fs exclusions root
    let paths := found.filterMap fun (way, entry) =>
      match entry with
      | .directory => none
      | .file _ => some (way.foldl Path.join path)
    { files := (paths.filter Dialect.isSourcePath).mergeSort fun p q => (Path.compare p q).isLE
      directories := found.countP fun (_, entry) => entry = .directory }

/-- The files that paths stand for: those in a directory, and anything else as it is given. -/
def expand (fs : FileSystem) (exclusions : List String) (paths : List String) : List String :=
  paths.flatMap fun path => if fs.isDirectory path then (ofDirectory fs exclusions path).files else [path]

end Walk

end ScriptTidy
