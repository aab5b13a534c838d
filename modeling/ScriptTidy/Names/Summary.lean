import ScriptTidy.Syntax.Tree

/-!
# Summary of the declared names

The names that a file gives to variables and to functions, each once, in the order in which a walk finds them.
-/

namespace ScriptTidy

/-- The names that a pattern binds, from left to right. Defaults and keys bind nothing. -/
def patternNames (source : String) : Node → List String
  | .mk label children =>
    match label.kind with
    | .identifier | .shorthandPropertyIdentifierPattern => [slice source label.span]
    | .pairPattern => first .value children
    | .objectAssignmentPattern | .assignmentPattern => first .left children
    | .objectPattern | .arrayPattern | .restPattern => proper children
    | _ => []
where
  first (field : Field) : List Node → List String
    | [] => []
    | n :: ns => if n.field = some field then patternNames source n else first field ns
  proper : List Node → List String
    | [] => []
    | n :: ns => if n.isProper then patternNames source n ++ proper ns else proper ns

/-- The names declared in a file. -/
structure DeclaredNames where
  variableNames : List String
  functionNames : List String
  deriving DecidableEq, Repr

namespace DeclaredNames

/-- Each name once, at its first place, and no empty name. -/
def distinct (names : List String) : List String := (names.filter (· ≠ "")).eraseDups

/-- The names that a node of a variable declaration binds. -/
def variablesAt (source : String) (n : Node) : List String :=
  if n.kind = .variableDeclarator then ((n.childByField? .name).map (patternNames source)).getD [] else []

/-- The name that a function declaration binds. -/
def functionsAt (source : String) (n : Node) : List String :=
  if n.kind = .functionDeclaration ∨ n.kind = .generatorFunctionDeclaration then
    ((n.childByField? .name).map fun c => [c.text source]).getD []
  else []

/-- The names declared in a tree. -/
def ofTree (t : Tree) : DeclaredNames where
  variableNames := distinct (t.root.nodes.flatMap (variablesAt t.source))
  functionNames := distinct (t.root.nodes.flatMap (functionsAt t.source))

def isEmpty (d : DeclaredNames) : Bool := d.variableNames.isEmpty && d.functionNames.isEmpty

/-- Names in a row, or a word that says there are none. -/
def listed (names : List String) : String := if names.isEmpty then "None" else ", ".intercalate names

/-- The summary in one line. -/
def text (d : DeclaredNames) : String :=
  s!"Variables: {listed d.variableNames} | Functions: {listed d.functionNames}"

end DeclaredNames

end ScriptTidy
