/-!
# Paths

A path is a text in which slashes divide names. Doubled slashes and a slash at the end say nothing, and neither does
a dot between slashes; a dot at the front of a relative path is kept. The functions here look at the text alone and
never at a file system.
-/

namespace ScriptTidy

namespace Path

/-- One step of a path. -/
inductive Step where
  /-- The start of an absolute path. -/
  | root
  /-- A dot at the front of a relative path. -/
  | here
  /-- Two dots. -/
  | up
  /-- The name of a file or directory. -/
  | name (text : String)
  deriving DecidableEq, Repr

/-- The pieces of a text between the places where a character stands. -/
def pieces (mark : Char) (text : String) : List String := (text.toList.splitOn mark).map String.ofList

/-- The segments of a path between its slashes. -/
def segments (path : String) : List String := pieces '/' path

/-- A segment between slashes that says nothing unless it stands first. -/
def isIdle (segment : String) : Bool := segment == "" || segment == "."

/-- The meaning of a segment that is not idle. -/
def Step.ofSegment (segment : String) : Step := if segment == ".." then up else name segment

/-- The path starts at the root. -/
def isAbsolute (path : String) : Bool := path.startsWith "/"

/-- The steps of a path, without those that say nothing. -/
def steps (path : String) : List Step :=
  match segments path with
  | [] => []
  | first :: rest =>
    let later := (rest.filter (!isIdle ·)).map Step.ofSegment
    if isAbsolute path then .root :: later
    else if first == "" then later
    else if first == "." then .here :: later
    else Step.ofSegment first :: later

/-- The name at the end of a path, if it ends in one. -/
def fileName? (path : String) : Option String :=
  match (steps path).getLast? with
  | some (.name text) => some text
  | _ => none

/-- The part of a file name behind its last dot. A dot at the front of the name opens no extension. -/
def extension? (path : String) : Option String := do
  let name ← fileName? path
  match (pieces '.' name).reverse with
  | [] | [_] => none
  | last :: before => if before == [""] then none else some last

/-- The segments without the idle ones at the end. -/
def trimEnd (segments : List String) : List String := (segments.reverse.dropWhile isIdle).reverse

/-- The path without its last step, or none if it has no step to lose. The text of the steps that stay is kept. -/
def parent? (path : String) : Option String :=
  match segments path with
  | [] => none
  | first :: rest =>
    let body := trimEnd rest
    if isAbsolute path then
      if body.isEmpty then none else some ("/" ++ "/".intercalate (trimEnd body.dropLast))
    else if first == "" then none
    else if body.isEmpty then some ""
    else some ("/".intercalate (first :: trimEnd body.dropLast))

/-- A path, its parent, the parent of that, and so on, at most `count` of them. -/
def climb : Nat → String → List String
  | 0, _ => []
  | count + 1, path => path :: ((parent? path).map (climb count)).getD []

/-- A path and all the paths above it, the nearest first. There is at most one for each of its segments, and one
more. -/
def ancestors (path : String) : List String := climb ((segments path).length + 1) path

/-- The path `child` as seen from the directory `base`. -/
def join (base child : String) : String :=
  if isAbsolute child || base == "" then child
  else if base.endsWith "/" then base ++ child
  else base ++ "/" ++ child

/-- Steps are ordered by their kind, and names by their bytes. -/
def Step.compare : Step → Step → Ordering
  | .name a, .name b => Ord.compare a b
  | a, b => Ord.compare (rank a) (rank b)
where
  rank : Step → Nat
    | .root => 0
    | .here => 1
    | .up => 2
    | .name _ => 3

/-- Lists of steps are ordered by their first difference. -/
def compareSteps : List Step → List Step → Ordering
  | [], [] => .eq
  | [], _ :: _ => .lt
  | _ :: _, [] => .gt
  | a :: as, b :: bs => (a.compare b).then (compareSteps as bs)

/-- Paths are ordered step by step, so that a directory's contents stand together. -/
def compare (p q : String) : Ordering := compareSteps (steps p) (steps q)

/-- Strip `pattern` from the front as often as it stands there. -/
def stripFront (pattern : List Char) (cs : List Char) : List Char :=
  match pattern with
  | [] => cs
  | p :: ps =>
    if (p :: ps).isPrefixOf cs then stripFront (p :: ps) (cs.drop (ps.length + 1)) else cs
termination_by cs.length
decreasing_by
  rename_i h
  have := (List.isPrefixOf_iff_prefix.1 h).length_le
  simp only [List.length_cons, List.length_drop] at *
  omega

/-- A path as it is shown: without the marker of extended paths, with slashes only, and without one `./` at the
front. -/
def display (path : String) : String :=
  let slashes := (stripFront ['\\', '\\', '?', '\\'] path.toList).map fun c => if c = '\\' then '/' else c
  match slashes with
  | '.' :: '/' :: rest => String.ofList rest
  | all => String.ofList all

end Path

end ScriptTidy
