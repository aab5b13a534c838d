import ScriptTidy.Rule.Basic

/-!
# From `var` to `let`

A `var` becomes a `let` where that changes nothing: at the top of a file or a function body, for names that are
declared once and not used before.
-/

namespace ScriptTidy

namespace Bindings

/-- Why a declaration keeps its keyword. -/
inductive Obstacle where
  | notAtTop
  | nestedBlock
  | redeclared
  | usedBefore
  deriving DecidableEq, Repr

/-- The obstacle in words. -/
def Obstacle.text : Obstacle → String
  | notAtTop => "not at the top of a function or module"
  | nestedBlock => "inside a nested block"
  | redeclared => "name is declared more than once"
  | usedBefore => "name is used before its declaration"

/-- The parents under which a declaration may stand at the top. -/
def isTop : Kind → Bool
  | .program | .statementBlock | .exportStatement => true
  | _ => false

/-- The identifiers in the patterns of a declaration. Those in default values are among them. -/
def patternIdentifiers (declaration : Node) : List Node :=
  (declaration.children.filter (·.kind = .variableDeclarator)).flatMap fun d =>
    match d.childByField? .name with
    | some name =>
      name.nodes.filter fun n => n.kind = .identifier ∨ n.kind = .shorthandPropertyIdentifierPattern
    | none => []

/-- What a binding that the declaration declares speaks against the change. -/
def bindingObstacle? (f : Facts) (declaration : Node) (id : Nat) : Option Obstacle :=
  if f.scopes.bindings[id]?.any fun b => b.kind ≠ .varName || 1 < b.sites.length then some .redeclared
  else if (f.scopes.referencesTo id).any (·.site.span.start < declaration.span.stop) then some .usedBefore
  else none

/-- What speaks against the change of a declaration. -/
def obstacle? (f : Facts) (v : Node.Visit) : Option Obstacle :=
  if !v.parent.all (isTop ·.kind) then some .notAtTop
  else if !f.scopes.isFunctionLikeAt v.node.span.start then some .nestedBlock
  else ((patternIdentifiers v.node).filterMap fun n => f.scopes.bindingAt? n.span).findSome?
    (bindingObstacle? f v.node)

/-- The keyword of a declaration by `var`. -/
def keyword? (n : Node) : Option Node :=
  if n.kind = .variableDeclaration then n.children.head?.filter (·.kind = .varKeyword) else none

/-- The number of the line on which a node starts, counted from one. -/
def lineOf (f : Facts) (n : Node) : Nat := (linePosition f.tree.source n.span.start).row + 1

/-- What to change where a walk stands. -/
def proposeFor (f : Facts) (v : Node.Visit) : Proposal :=
  match keyword? v.node with
  | none => .none
  | some keyword =>
    match obstacle? f v with
    | none => ⟨[.replace keyword.span "let"], 1, [s!"line {lineOf f v.node}"], []⟩
    | some obstacle => ⟨[], 0, [], [s!"Kept 'var' on line {lineOf f v.node}: {obstacle.text}"]⟩

/-- What to change about the declarations of a file. -/
def propose (f : Facts) : Proposal := .concat (f.tree.root.walk.map (proposeFor f))

/-- The proposal in one sentence. -/
def headline (p : Proposal) : String :=
  if p.count = 0 then "No 'var' declarations found." else s!"Converted {p.count} 'var' to 'let'."

end Bindings

end ScriptTidy
