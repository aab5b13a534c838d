import ScriptTidy.Data.Json.Reader
import ScriptTidy.Files.FileSystem
import ScriptTidy.Syntax.TreeTable

/-!
# Workspaces

A workspace is what a command line works on: the files below the working directory, and the trees of the texts that
come up. It is written as a JSON object with three fields.

* `files` gives the content of each file by its path. A content that is no text is a list of bytes, and a path that
  ends with a slash is a directory.
* `strings` lists the names of kinds and fields.
* `parses` gives each tree as a list of numbers, six to a node.
-/

namespace ScriptTidy

/-- Files, and a parser for their texts. -/
structure Workspace where
  files : FileSystem
  trees : TreeTable

namespace Workspace

/-- The working directory. -/
def home : Location := ["work"]

/-- The location of a path below the working directory. -/
def locationOf (path : String) : Location := home ++ (path.splitOn "/").filter (· ≠ "")

/-- Put a file or a directory into a file system, with the directories around it. -/
def addEntry (files : FileSystem) (path : String) (content : ByteArray) : FileSystem :=
  let location := locationOf path
  if path.endsWith "/" then files.makeDirectory location
  else (files.makeDirectory location.dropLast).put location (.file content)

/-- The file system with the given contents. -/
def filesOf (contents : List (String × ByteArray)) : FileSystem :=
  contents.foldl (fun files (path, content) => addEntry files path content)
    (FileSystem.makeDirectory { workingDirectory := home, entries := [] } home)

/-- The files of `new` that are not in `old` with the same content, by their paths from the working directory. -/
def changes (old new : FileSystem) : List (String × ByteArray) :=
  new.entries.filterMap fun (location, entry) =>
    match entry with
    | .directory => none
    | .file content =>
      if old.entry? location = some entry then none
      else some ("/".intercalate (location.drop home.length), content)

/-- A whole number. -/
def int? : Json → Option Int
  | .number mantissa exponent => if 0 ≤ exponent then some (mantissa * Int.ofNat (Nat.pow 10 exponent.toNat)) else none
  | _ => none

def text? : Json → Option String
  | .text s => some s
  | _ => none

/-- The items of an array. -/
def items? {α : Type} (read : Json → Option α) : Json → Option (List α)
  | .array items => items.mapM read
  | _ => none

/-- The values of an object with their keys. -/
def entries? {α : Type} (read : Json → Option α) : Json → Option (List (String × α))
  | .object fields => fields.mapM fun (key, value) => (read value).map (key, ·)
  | _ => none

/-- The content of a file. -/
def content? : Json → Option ByteArray
  | .text s => some s.toUTF8
  | bytes => (items? int? bytes).map fun ns => ⟨(ns.map fun n => n.toNat.toUInt8).toArray⟩

/-- Read a workspace. What is not mentioned is empty. -/
def ofJson? (v : Json) : Option Workspace := do
  let fieldOr (key : String) (standard : Json) : Json := (v.field? key).getD standard
  let contents ← entries? content? (fieldOr "files" (.object []))
  let names ← items? text? (fieldOr "strings" (.array []))
  let trees ← entries? (items? int?) (fieldOr "parses" (.object []))
  let table := trees.foldl (fun table (key, numbers) => table.addNumbers names.toArray key numbers) ({} : TreeTable)
  return ⟨filesOf contents, table⟩

end Workspace

end ScriptTidy
