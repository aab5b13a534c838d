import ScriptTidy.Files.FileSystem
import ScriptTidy.Files.Glob

/-!
# Ignore rules

Folders may hold files that say which paths to ignore, one glob to a line. A line that starts with an exclamation mark
makes an exception. In a file the last line that fits decides, and of several files the one nearest to the path.
-/

namespace ScriptTidy

/-- One line of an ignore file. -/
structure IgnoreRule where
  glob : List GlobPart
  /-- The rule makes an exception. -/
  keeps : Bool
  /-- The rule is about directories only. -/
  directoriesOnly : Bool
  deriving Repr

/-- What ignore rules say about a path. -/
inductive Verdict where
  | ignore
  | keep
  deriving DecidableEq, Repr

namespace IgnoreRule

/-- Take a text off the front. -/
def strip (front line : String) : Bool × String :=
  if line.startsWith front then (true, (line.drop front.length).toString) else (false, line)

/-- The rule without its last slash, which means a directory. A backslash in front of the slash goes too. -/
def stripSlash (line : String) : Bool × String :=
  if line.endsWith "/" then
    let rest := (line.dropEnd 1).toString
    (true, if rest.endsWith "\\" then (rest.dropEnd 1).toString else rest)
  else (false, line)

/-- A glob without slashes may match in any folder. Two stars at the end mean what is in a folder, and not the folder
itself. -/
def widen (anchored : Bool) (glob : String) : String :=
  let placed :=
    if !anchored && !glob.contains '/' && glob != "**" then "**/" ++ glob else glob
  if placed.endsWith "/**" then placed ++ "/*" else placed

/-- A line without blanks at its end. -/
def trimmed (line : String) : String :=
  String.ofList (line.toList.reverse.dropWhile fun c => CharSet.whiteSpace.holds c.toNat).reverse

/-- The rule of a line, if it gives one. An escaped blank at the end is kept. -/
def ofLine? (line : String) : Option IgnoreRule :=
  if line.startsWith "#" then none
  else
    let line := if line.endsWith "\\ " then line else trimmed line
    if line.isEmpty then none
    else
      let escaped := line.startsWith "\\!" || line.startsWith "\\#"
      let (keeps, rest) := if escaped then (false, (line.drop 1).toString) else strip "!" line
      let (anchored, rest) := if escaped then (false, rest) else strip "/" rest
      let (directoriesOnly, rest) := stripSlash rest
      (Glob.ofText? (widen anchored rest)).map (⟨·, keeps, directoriesOnly⟩)

/-- A line without the carriage return at its end. -/
def bareLine (line : String) : String := if line.endsWith "\r" then (line.dropEnd 1).toString else line

/-- The lines of a file up to the first that is no text. A mark of the byte order at the front is left out. -/
def textLines (content : ByteArray) : List String :=
  let lines := (content.toList.splitOn 10).map fun bytes => (String.fromUTF8? ⟨bytes.toArray⟩).map bareLine
  match (lines.takeWhile Option.isSome).reduceOption with
  | [] => []
  | first :: rest => String.ofList (first.toList.dropWhile (·.toNat = 0xFEFF)) :: rest

/-- The rules of an ignore file. -/
def ofContent (content : ByteArray) : List IgnoreRule := (textLines content).filterMap ofLine?

/-- What rules say about a path, which is given relative to the folder of the rules. -/
def verdict (rules : List IgnoreRule) (path : String) (isDirectory : Bool) : Option Verdict :=
  (rules.findRev? fun r => (!r.directoriesOnly || isDirectory) && Glob.isMatch r.glob path).map fun r =>
    if r.keeps then .keep else .ignore

end IgnoreRule

/-- The rules in one folder: those that always hold, those of version control, and those that version control does not
share. -/
structure FolderRules where
  folder : Location
  always : List IgnoreRule
  shared : List IgnoreRule
  unshared : List IgnoreRule
  /-- The folder is the root of a repository. -/
  isRepository : Bool

namespace FolderRules

/-- The rules in a file. A file that cannot be read has none. -/
def rulesAt (fs : FileSystem) (location : Location) : List IgnoreRule :=
  match fs.entry? location with
  | some (.file content) => IgnoreRule.ofContent content
  | _ => []

/-- The rules of a folder. -/
def ofFolder (fs : FileSystem) (folder : Location) : FolderRules where
  folder := folder
  always := rulesAt fs (folder ++ [".ignore"])
  shared := rulesAt fs (folder ++ [".gitignore"])
  unshared := rulesAt fs (folder ++ [".git", "info", "exclude"])
  isRepository := (fs.entry? (folder ++ [".git"])).isSome

/-- What one kind of rules of the folders says, the nearest folder first. -/
def decide (kind : FolderRules → List IgnoreRule) (folders : List FolderRules) (location : Location)
    (isDirectory : Bool) : Option Verdict :=
  folders.findSome? fun f =>
    IgnoreRule.verdict (kind f) ("/".intercalate (location.drop f.folder.length)) isDirectory

/-- The folders up to the first repository, if there is one. Rules of version control do not hold elsewhere. -/
def repository : List FolderRules → List FolderRules
  | [] => []
  | f :: fs => if f.isRepository then [f] else if fs.any (·.isRepository) then f :: repository fs else []

/-- The folders of a location are given, the nearest first. The rules tell to ignore the location. -/
def ignores (folders : List FolderRules) (location : Location) (isDirectory : Bool) : Bool :=
  let inRepository := repository folders
  ((decide always folders location isDirectory).or
    ((decide shared inRepository location isDirectory).or (decide unshared inRepository location isDirectory)))
    == some .ignore

end FolderRules

end ScriptTidy
