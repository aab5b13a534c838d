import ScriptTidy.Config.Sample

/-!
# Finding the configuration

The configuration of a path is the nearest one: a file of its own or a section of a package manifest, in the directory
of the path or above it. What cannot be read is passed over.
-/

namespace ScriptTidy

namespace Config

/-- The name of a package manifest. -/
def manifestName : String := "package.json"

/-- A configuration with the path of the file it came from. -/
structure Found where
  config : Config
  path : Option String
  deriving DecidableEq, Repr

/-- The configuration in the configuration file of a directory. -/
def inFile? (fs : FileSystem) (directory : String) : Option Found :=
  let path := Path.join directory fileName
  match fs.readText path with
  | .error _ => none
  | .ok text =>
    match ofToml text with
    | .ok config => some ⟨config, some path⟩
    | .error _ => none

/-- The configuration in the package manifest of a directory. -/
def inManifest? (fs : FileSystem) (directory : String) : Option Found :=
  let path := Path.join directory manifestName
  match fs.readText path with
  | .error _ => none
  | .ok text =>
    match ofManifest text with
    | .ok (some config) => some ⟨config, some path⟩
    | _ => none

/-- The configuration of a directory. A file of its own comes before the manifest. -/
def inDirectory? (fs : FileSystem) (directory : String) : Option Found :=
  (inFile? fs directory).or (inManifest? fs directory)

/-- The directories in which to look for the configuration of a path, the nearest first. -/
def candidates (fs : FileSystem) (path : String) : List String :=
  let start := if fs.isFile path then (Path.parent? path).getD path else path
  Path.ancestors start

/-- The nearest configuration, or the standard one if there is none. -/
def nearest (fs : FileSystem) (path : String) : Found :=
  ((candidates fs path).findSome? (inDirectory? fs)).getD ⟨standard, none⟩

end Config

end ScriptTidy
