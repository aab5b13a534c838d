import ScriptTidy.Files.Path

/-!
# File systems

A file system as a value: directories and files by the names on the way to them from the root, and a working
directory from which relative paths start. There are no links, so that every entry has one place. Files can be
protected against writing.
-/

namespace ScriptTidy

/-- What stands at a place of a file system. -/
inductive Entry where
  | directory
  | file (content : ByteArray)

instance : DecidableEq Entry
  | .directory, .directory => .isTrue rfl
  | .directory, .file _ => .isFalse nofun
  | .file _, .directory => .isFalse nofun
  | .file a, .file b => decidable_of_iff (a.data = b.data) (by simp [ByteArray.ext_iff])

/-- The names on the way from the root to a place. -/
abbrev Location := List String

/-- Why a file cannot be read or written. -/
inductive FileError where
  | notFound
  | notADirectory
  | isADirectory
  | permissionDenied
  | invalidText
  deriving DecidableEq, Repr

/-- The sentence that describes a file error. -/
def FileError.message : FileError → String
  | notFound => "No such file or directory (os error 2)"
  | notADirectory => "Not a directory (os error 20)"
  | isADirectory => "Is a directory (os error 21)"
  | permissionDenied => "Permission denied (os error 13)"
  | invalidText => "stream did not contain valid UTF-8"

/-- The files and directories there are, and the working directory. -/
structure FileSystem where
  workingDirectory : Location
  entries : List (Location × Entry)
  /-- The places of the files that cannot be written to. -/
  writeProtected : List Location := []

namespace FileSystem

/-- What stands at a location. The root is a directory. -/
def entry? (fs : FileSystem) (location : Location) : Option Entry :=
  if location = [] then some .directory else fs.entries.lookup location

/-- Go from a location along the steps of a path. Every place that is left has to be a directory. -/
def follow (fs : FileSystem) (location : Location) : List Path.Step → Except FileError Location
  | [] => .ok location
  | step :: steps =>
    match fs.entry? location with
    | none => .error .notFound
    | some (.file _) => .error .notADirectory
    | some .directory =>
      match step with
      | .root => fs.follow [] steps
      | .here => fs.follow location steps
      | .up => fs.follow location.dropLast steps
      | .name text => fs.follow (location ++ [text]) steps

/-- The path can only mean a directory. -/
def asksDirectory (path : String) : Bool := path.endsWith "/" || path.endsWith "/."

/-- The location that a path means, where something may stand or not. -/
def locate (fs : FileSystem) (path : String) : Except FileError Location :=
  if path = "" then .error .notFound
  else
    match fs.follow (if Path.isAbsolute path then [] else fs.workingDirectory) (Path.steps path) with
    | .error e => .error e
    | .ok location =>
      match fs.entry? location with
      | some (.file _) => if asksDirectory path then .error .notADirectory else .ok location
      | _ => .ok location

/-- What stands at a path. -/
def find? (fs : FileSystem) (path : String) : Option Entry :=
  match fs.locate path with
  | .error _ => none
  | .ok location => fs.entry? location

def exists? (fs : FileSystem) (path : String) : Bool := (fs.find? path).isSome

def isDirectory (fs : FileSystem) (path : String) : Bool :=
  match fs.find? path with
  | some .directory => true
  | _ => false

def isFile (fs : FileSystem) (path : String) : Bool :=
  match fs.find? path with
  | some (.file _) => true
  | _ => false

/-- The bytes of a file. -/
def read (fs : FileSystem) (path : String) : Except FileError ByteArray :=
  match fs.locate path with
  | .error e => .error e
  | .ok location =>
    match fs.entry? location with
    | none => .error .notFound
    | some .directory => .error .isADirectory
    | some (.file content) => .ok content

/-- The text of a file. -/
def readText (fs : FileSystem) (path : String) : Except FileError String :=
  match fs.read path with
  | .error e => .error e
  | .ok content =>
    match String.fromUTF8? content with
    | some text => .ok text
    | none => .error .invalidText

/-- Put an entry at a location, in the place of what stood there. -/
def put (fs : FileSystem) (location : Location) (entry : Entry) : FileSystem :=
  { fs with
    entries :=
      if fs.entries.any (·.1 = location) then
        fs.entries.map fun e => if e.1 = location then (location, entry) else e
      else fs.entries ++ [(location, entry)] }

/-- Write a text to a file. A path that can only mean a directory makes no new file. -/
def writeText (fs : FileSystem) (path text : String) : Except FileError FileSystem :=
  match fs.locate path with
  | .error e => .error e
  | .ok location =>
    match fs.entry? location with
    | some .directory => .error .isADirectory
    | some (.file _) =>
      if fs.writeProtected.contains location then .error .permissionDenied
      else .ok (fs.put location (.file text.toUTF8))
    | none =>
      if path.endsWith "/" then .error .isADirectory
      else if asksDirectory path then .error .notFound
      else .ok (fs.put location (.file text.toUTF8))

/-- The places on the way to a location, the location itself included. -/
def waypoints (location : Location) : List Location := (List.range (location.length + 1)).map location.take

/-- Make a location a directory, and every place on the way to it. -/
def makeDirectory (fs : FileSystem) (location : Location) : FileSystem :=
  (waypoints location).foldl (fun fs place =>
    match fs.entry? place with
    | some _ => fs
    | none => fs.put place .directory) fs

/-- The names of the entries in a directory. -/
def names (fs : FileSystem) (location : Location) : List String :=
  fs.entries.filterMap fun (place, _) =>
    match place.getLast? with
    | some name => if place.dropLast = location then some name else none
    | none => none

end FileSystem

end ScriptTidy
