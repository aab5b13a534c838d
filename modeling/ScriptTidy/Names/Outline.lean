import ScriptTidy.Syntax.Tree

/-!
# Outlines

The outline of a syntax tree keeps what matters to names: the regions that hold declarations, in their nesting, and
in each region the names that are declared and the names that are referred to, in source order.

A node is read in one of a few ways, as the next inductive type lists them. One table, `Reading.role`, says how the
children of a node are read; four smaller tables say what the node adds by itself. The outline is the single
recursion over them.
-/

namespace ScriptTidy

/-- The kinds of regions that hold declarations. -/
inductive ScopeKind where
  /-- The whole file. -/
  | file
  /-- A function or method, with its parameters. -/
  | function
  /-- A block, or the body of a switch. -/
  | block
  /-- A loop with its head. -/
  | loop
  /-- A catch clause. -/
  | handler
  /-- A class. -/
  | classBody
  deriving DecidableEq, Repr

/-- Declarations by `var` go to the nearest region for which this holds. -/
def ScopeKind.isFunctionLike : ScopeKind → Bool
  | file | function => true
  | _ => false

/-- How a name is declared. -/
inductive BindingKind where
  | varName
  | letName
  | constName
  | functionName
  | className
  | parameter
  | catchParameter
  | importName
  | typeName
  deriving DecidableEq, Repr

/-- The name of a variable. -/
def BindingKind.isVariable : BindingKind → Bool
  | varName | letName | constName => true
  | _ => false

/-- The kind of variable that a keyword declares. -/
def BindingKind.ofKeyword (keyword : String) : BindingKind :=
  if keyword = "var" then varName else if keyword = "const" then constName else letName

/-- The shape in which an identifier stands. Some shapes have to be written out when the name changes. -/
inductive Form where
  /-- By itself. -/
  | plain
  /-- As the name and the value of a property. -/
  | objectShorthand
  /-- As the name of a property and of the variable it is taken into. -/
  | patternShorthand
  /-- As an exported name without an alias. -/
  | exportSpecifier
  /-- As the name of a markup element. -/
  | markupTag
  deriving DecidableEq, Repr

/-- The place of an identifier. -/
structure Site where
  span : Span
  form : Form
  deriving DecidableEq, Repr

/-- What a piece of syntax means for names. -/
inductive Outline where
  | declare (kind : BindingKind) (name : String) (site : Site)
  | refer (name : String) (site : Site)
  /-- A region with what it holds. -/
  | scope (kind : ScopeKind) (span : Span) (parts : List Outline)
  /-- What an exported declaration holds. -/
  | exported (parts : List Outline)
  deriving Repr

namespace Outline

/-- The declaration of a node's text. A node without text declares nothing. -/
def declareNode (source : String) (kind : BindingKind) (form : Form) (n : Node) : List Outline :=
  if n.text source = "" then [] else [declare kind (n.text source) ⟨n.span, form⟩]

/-- The reference by a node's text. A node without text refers to nothing. -/
def referNode (source : String) (form : Form) (n : Node) : List Outline :=
  if n.text source = "" then [] else [refer (n.text source) ⟨n.span, form⟩]

end Outline

/-- What a node is for names, when it stands in the place of a statement or an expression. -/
inductive Construct where
  /-- A name that is referred to. -/
  | name (form : Form)
  /-- Nothing in it is a name. -/
  | inert
  | functionDeclaration
  | functionExpression
  /-- A function whose name is no variable. -/
  | methodLike
  | classDeclaration
  | classExpression
  /-- A region of its own, with nothing to note about its children. -/
  | region (kind : ScopeKind)
  /-- A loop over the elements of a collection. -/
  | loopOver
  | handler
  /-- A declaration of variables. -/
  | declaration
  | importStatement
  | exportStatement
  | typeDeclaration
  /-- The opening or closing of a markup element. -/
  | markup
  /-- Anything else. -/
  | compound
  deriving DecidableEq, Repr

/-- What a kind of node is for names. -/
def Kind.construct : Kind → Construct
  | identifier | typeIdentifier => .name .plain
  | shorthandPropertyIdentifier => .name .objectShorthand
  | shorthandPropertyIdentifierPattern => .name .patternShorthand
  | comment | stringLiteral | regexLiteral | propertyIdentifier | statementIdentifier => .inert
  | functionDeclaration | generatorFunctionDeclaration | functionSignature => .functionDeclaration
  | functionExpression | functionKeyword | generatorFunction => .functionExpression
  | arrowFunction | methodDefinition => .methodLike
  | classDeclaration | abstractClassDeclaration => .classDeclaration
  | classKeyword => .classExpression
  | statementBlock | switchBody | classStaticBlock => .region .block
  | forStatement => .region .loop
  | forInStatement => .loopOver
  | catchClause => .handler
  | lexicalDeclaration | variableDeclaration => .declaration
  | importStatement => .importStatement
  | exportStatement => .exportStatement
  | enumDeclaration | internalModule | moduleDeclaration | interfaceDeclaration | typeAliasDeclaration =>
    .typeDeclaration
  | jsxOpeningElement | jsxClosingElement | jsxSelfClosingElement => .markup
  | _ => .compound

/-- The ways in which a node is read. -/
inductive Reading where
  /-- As a statement or an expression. -/
  | code
  /-- As the body of a function, which shares the region of the parameters. -/
  | body
  | parameterList
  | parameter
  /-- As a pattern whose names are declared. -/
  | pattern (kind : BindingKind)
  /-- As one declared variable, or pattern of variables, with its initial value. -/
  | declarator (kind : BindingKind)
  /-- As the declaration of an export statement. -/
  | exportedDeclaration
  /-- As the list of names of an export statement. -/
  | exportList
  /-- As the name of a markup element. -/
  | tag
  /-- As the name of a declared type. -/
  | typeName
  deriving DecidableEq, Repr

namespace Reading

/-- A kind of pattern whose names can be declared. -/
def isPattern : Kind → Bool
  | .identifier | .shorthandPropertyIdentifierPattern | .objectPattern | .arrayPattern | .restPattern
  | .pairPattern | .objectAssignmentPattern | .assignmentPattern => true
  | _ => false

/-- How a node of this kind is read in the end: what is no pattern is read as code, even in the place of one. -/
def settle (r : Reading) (kind : Kind) : Reading :=
  match r with
  | parameter =>
    match kind with
    | .requiredParameter | .optionalParameter => parameter
    | .decorator | .thisKeyword => code
    | _ => if isPattern kind then pattern .parameter else code
  | pattern k => if isPattern kind then pattern k else code
  | exportedDeclaration => code
  | r => r

/-- The kind of variable that a declaration declares. -/
def declaredKind (source : String) (n : Node) : BindingKind :=
  if n.kind = .variableDeclaration then .varName
  else ((n.childByField? .kind).map fun k => BindingKind.ofKeyword (k.text source)).getD .letName

/-- The kind of variable that the head of a loop declares, if it declares one. -/
def loopKind? (source : String) (n : Node) : Option BindingKind :=
  (n.childByField? .kind).map fun k => BindingKind.ofKeyword (k.text source)

/-- How a child of a function is read. -/
def functionRole (child : Node) : Option Reading :=
  match child.field with
  | some .name => none
  | some .parameter => some (pattern .parameter)
  | some .parameters => some parameterList
  | some .body => some (if child.kind = .statementBlock then body else code)
  | _ => some code

/-- How a child of an export statement is read. A list of names from another file refers to nothing here. -/
def exportRole (n child : Node) : Option Reading :=
  if child.field = some .declaration then some exportedDeclaration
  else if child.kind = .exportClause then
    if (n.childByField? .source).isSome then none else some exportList
  else if child.kind = .namespaceExport then none
  else some code

/-- How a child of a node is read, where the node itself is read as code. -/
def codeRole (source : String) (n child : Node) : Option Reading :=
  match n.kind.construct with
  | .name _ | .inert | .importStatement => none
  | .functionDeclaration | .functionExpression | .methodLike => functionRole child
  | .classDeclaration | .classExpression => if child.field = some .name then none else some code
  | .region _ | .compound => some code
  | .loopOver =>
    if child.field = some .left then some (((loopKind? source n).map pattern).getD code) else some code
  | .handler => some (if child.field = some .parameter then pattern .catchParameter else code)
  | .declaration => some (if child.kind = .variableDeclarator then declarator (declaredKind source n) else code)
  | .exportStatement => exportRole n child
  | .typeDeclaration =>
    some (if child.field = some .name ∧ (child.kind = .identifier ∨ child.kind = .typeIdentifier) then typeName
      else code)
  | .markup => some (if child.field = some .name ∧ child.kind = .identifier then tag else code)

/-- How a child of a pattern is read. Keys that are written out say nothing. -/
def patternRole (k : BindingKind) (n child : Node) : Option Reading :=
  match n.kind with
  | .objectPattern | .arrayPattern | .restPattern => if child.isProper then some (pattern k) else none
  | .pairPattern =>
    if child.field = some .value then some (pattern k)
    else if child.kind = .computedPropertyName then some code
    else none
  | .objectAssignmentPattern | .assignmentPattern =>
    some (if child.field = some .left then pattern k else code)
  | _ => none

/-- How a child of a node is read, if it is read at all. -/
def role (source : String) (r : Reading) (n child : Node) : Option Reading :=
  match r with
  | code => codeRole source n child
  | body => some code
  | parameterList => if child.isProper then some parameter else none
  | parameter => some (if child.field = some .pattern then pattern .parameter else code)
  | pattern k => patternRole k n child
  | declarator k => some (if child.field = some .name then pattern k else code)
  | exportedDeclaration | exportList | tag | typeName => none

/-- The declarations that a node makes in the region around it. -/
def preamble (source : String) (r : Reading) (n : Node) : List Outline :=
  match r, n.kind.construct with
  | code, .functionDeclaration =>
    ((n.childByField? .name).map (Outline.declareNode source .functionName .plain)).getD []
  | code, .classDeclaration =>
    ((n.childByField? .name).map (Outline.declareNode source .className .plain)).getD []
  | _, _ => []

/-- The name of a method is read in front of its region, if it is computed. -/
def readsName (r : Reading) (n : Node) : Bool :=
  r = code && n.kind.construct = .methodLike &&
    (n.childByField? .name).any (·.kind = .computedPropertyName)

/-- The region that a node opens. -/
def scopeKind? (r : Reading) (kind : Kind) : Option ScopeKind :=
  match r, kind.construct with
  | code, .functionDeclaration | code, .functionExpression | code, .methodLike => some .function
  | code, .classDeclaration | code, .classExpression => some .classBody
  | code, .region k => some k
  | code, .loopOver => some .loop
  | code, .handler => some .handler
  | _, _ => none

/-- The local name of an import specifier: its alias, or else the name it imports. -/
def importedName? (specifier : Node) : Option Node :=
  if specifier.kind = .importSpecifier then
    ((specifier.childByField? .asName).or (specifier.childByField? .name)).filter (·.kind = .identifier)
  else none

/-- The local names of a part of an import clause. -/
def importedBy (part : Node) : List Node :=
  match part.kind with
  | .identifier => [part]
  | .namespaceImport => (part.childOfKind? .identifier).toList
  | .namedImports => part.properChildren.filterMap importedName?
  | _ => []

/-- The local names of an import statement. -/
def importedNames (n : Node) : List Node :=
  n.properChildren.flatMap fun clause =>
    match clause.kind with
    | .importClause => clause.properChildren.flatMap importedBy
    | .importRequireClause => (clause.childOfKind? .identifier).toList
    | _ => []

/-- The reference of an export specifier. Without an alias, the exported name is the name of the variable. -/
def exportedBy (source : String) (specifier : Node) : List Outline :=
  match specifier.childByField? .name with
  | some name =>
    if name.kind = .identifier then
      Outline.referNode source (if (specifier.childByField? .asName).isSome then .plain else .exportSpecifier) name
    else []
  | none => []

/-- A small letter at the front names a built-in element. -/
def isBuiltinTag (text : String) : Bool :=
  match text.toList with
  | c :: _ => c.isLower
  | [] => false

/-- What a node adds by itself, inside its region and in front of its children. -/
def opening (source : String) (r : Reading) (n : Node) : List Outline :=
  match r with
  | code =>
    match n.kind.construct with
    | .name form => Outline.referNode source form n
    | .functionExpression =>
      ((n.childByField? .name).map (Outline.declareNode source .functionName .plain)).getD []
    | .classExpression =>
      ((n.childByField? .name).map (Outline.declareNode source .className .plain)).getD []
    | .importStatement => (importedNames n).flatMap (Outline.declareNode source .importName .plain)
    | _ => []
  | pattern k =>
    match n.kind with
    | .identifier => Outline.declareNode source k .plain n
    | .shorthandPropertyIdentifierPattern => Outline.declareNode source k .patternShorthand n
    | _ => []
  | exportList => n.properChildren.flatMap (exportedBy source)
  | tag => if isBuiltinTag (n.text source) then [] else Outline.referNode source .markupTag n
  | typeName => Outline.declareNode source .typeName .plain n
  | body | parameterList | parameter | declarator _ | exportedDeclaration => []

/-- Put what a node holds into the region that it opens. -/
def enclose (r : Reading) (n : Node) (parts : List Outline) : List Outline :=
  match scopeKind? r n.kind with
  | some kind => [.scope kind n.span parts]
  | none => parts

/-- Mark what an exported declaration holds. -/
def stamp (r : Reading) (parts : List Outline) : List Outline :=
  match r with
  | exportedDeclaration => [.exported parts]
  | _ => parts

end Reading

/-- The outline of a node in a given reading. -/
def Node.outline (source : String) (reading : Reading) : Node → List Outline
  | .mk label children =>
    let n := Node.mk label children
    let r := reading.settle label.kind
    let name := if r.readsName n then outlineFirst children else []
    let parts := r.opening source n ++ outlineAll (r.role source n) children
    reading.stamp (r.preamble source n ++ name ++ r.enclose n parts)
where
  /-- The outlines of the children that have a role. -/
  outlineAll (role : Node → Option Reading) : List Node → List Outline
    | [] => []
    | c :: cs =>
      match role c with
      | some r => c.outline source r ++ outlineAll role cs
      | none => outlineAll role cs
  /-- The outline, as code, of the first child that is a name. -/
  outlineFirst : List Node → List Outline
    | [] => []
    | c :: cs => if c.field = some .name then c.outline source .code else outlineFirst cs

/-- The outline of a whole file. -/
def Tree.outline (t : Tree) : Outline :=
  .scope .file t.root.fullSpan (Node.outline.outlineAll t.source (fun _ => some .code) t.root.children)

end ScriptTidy
