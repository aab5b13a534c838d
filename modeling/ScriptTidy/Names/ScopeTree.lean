import ScriptTidy.Names.Outline

/-!
# Scope trees

From an outline, every region gets a number, every declared name a binding, and every reference the binding it means:
that of the nearest region, going outwards, which declares its name. References are resolved when all declarations
are known, so that a name can be used before the place where it is declared.
-/

namespace ScriptTidy

/-- A region that holds declarations. -/
structure Scope where
  kind : ScopeKind
  /-- The number of the region around it. -/
  parent : Option Nat
  span : Span
  /-- The bindings declared in it, by their names. -/
  names : List (String × Nat)
  deriving DecidableEq, Repr

/-- The binding that a region declares under a name. -/
def Scope.lookup (s : Scope) (name : String) : Option Nat := s.names.lookup name

/-- A declared name. -/
structure Binding where
  /-- Its number. -/
  id : Nat
  name : String
  /-- The kind of its first declaration. -/
  kind : BindingKind
  /-- The number of the region that it belongs to. -/
  scope : Nat
  /-- The places where it is declared. -/
  sites : List Site
  /-- It was first declared by an export statement. -/
  exported : Bool
  deriving DecidableEq, Repr

/-- A name that is referred to. -/
structure Reference where
  name : String
  site : Site
  /-- The number of the region it stands in. -/
  scope : Nat
  /-- The number of the binding it means, if it means one of this file. -/
  binding : Option Nat
  deriving DecidableEq, Repr

/-- What is known of the scopes of a file while its outline is being read. -/
structure ScopeRecord where
  scopes : Array Scope
  bindings : Array Binding
  references : Array Reference
  /-- The bindings by the offsets at which they are declared, the latest first. -/
  declaredAt : List (Nat × Nat)
  deriving Repr

namespace ScopeRecord

def empty : ScopeRecord := ⟨#[], #[], #[], []⟩

/-- The innermost of the open regions, which are listed from the inside out. -/
def current (opened : List Nat) : Nat := opened.headD 0

/-- The innermost open region that is a function or the file. -/
def hoistTarget (d : ScopeRecord) (opened : List Nat) : Nat :=
  (opened.find? fun id => d.scopes[id]?.any (·.kind.isFunctionLike)).getD 0

/-- The region that a declaration made in the innermost open region belongs to. -/
def home (d : ScopeRecord) (opened : List Nat) (kind : BindingKind) : Nat :=
  if kind = .varName then d.hoistTarget opened else current opened

/-- Another place where a binding is declared. -/
def addSite (d : ScopeRecord) (id : Nat) (site : Site) : ScopeRecord :=
  { d with
    bindings := d.bindings.modify id fun b => { b with sites := b.sites ++ [site] }
    declaredAt := (site.span.start, id) :: d.declaredAt }

/-- A new binding. -/
def addBinding (d : ScopeRecord) (scope : Nat) (kind : BindingKind) (name : String) (site : Site) :
    ScopeRecord :=
  let id := d.bindings.size
  { d with
    scopes := d.scopes.modify scope fun s => { s with names := (name, id) :: s.names }
    bindings := d.bindings.push ⟨id, name, kind, scope, [site], false⟩
    declaredAt := (site.span.start, id) :: d.declaredAt }

/-- Declare a name: a second declaration in one region adds to the binding of the first. -/
def declare (d : ScopeRecord) (opened : List Nat) (kind : BindingKind) (name : String) (site : Site) :
    ScopeRecord :=
  let scope := d.home opened kind
  match d.scopes[scope]?.bind (·.lookup name) with
  | some id => d.addSite id site
  | none => d.addBinding scope kind name site

/-- Note a reference, to be resolved later. -/
def refer (d : ScopeRecord) (opened : List Nat) (name : String) (site : Site) : ScopeRecord :=
  { d with references := d.references.push ⟨name, site, current opened, none⟩ }

/-- Open a region inside the innermost open one. -/
def openScope (d : ScopeRecord) (opened : List Nat) (kind : ScopeKind) (span : Span) : ScopeRecord :=
  { d with scopes := d.scopes.push ⟨kind, opened.head?, span, []⟩ }

/-- Mark the bindings of a region, from number `first` on, as exported. -/
def markExported (d : ScopeRecord) (first scope : Nat) : ScopeRecord :=
  { d with
    bindings := d.bindings.mapIdx fun id b =>
      if first ≤ id ∧ b.scope = scope then { b with exported := true } else b }

end ScopeRecord

/-- Read an outline inside the open regions, which are listed from the inside out. -/
def Outline.record (opened : List Nat) : Outline → ScopeRecord → ScopeRecord
  | .declare kind name site, d => d.declare opened kind name site
  | .refer name site, d => d.refer opened name site
  | .scope kind span parts, d => recordAll (d.scopes.size :: opened) parts (d.openScope opened kind span)
  | .exported parts, d =>
    (recordAll opened parts d).markExported d.bindings.size (ScopeRecord.current opened)
where
  recordAll (opened : List Nat) : List Outline → ScopeRecord → ScopeRecord
    | [], d => d
    | o :: os, d => recordAll opened os (o.record opened d)

/-- The scopes, bindings and resolved references of a file. -/
structure ScopeTree where
  scopes : Array Scope
  bindings : Array Binding
  references : Array Reference
  /-- The bindings by the offsets at which they are declared, the latest first. -/
  declaredAt : List (Nat × Nat)
  /-- For each binding the numbers of the references that mean it. -/
  uses : Array (List Nat)
  deriving Repr

namespace Scope

/-- The region `id` and those around it, from the inside out, at most `fuel` of them. -/
def chainFrom (scopes : Array Scope) : Nat → Nat → List Nat
  | 0, _ => []
  | fuel + 1, id =>
    match scopes[id]? with
    | none => []
    | some s =>
      match s.parent with
      | none => [id]
      | some parent => id :: chainFrom scopes fuel parent

/-- The region `id` and those around it, from the inside out. A region has a greater number than the one around it,
so that the chain is no longer than its number tells. -/
def chain (scopes : Array Scope) (id : Nat) : List Nat := chainFrom scopes (id + 1) id

/-- The binding that a name means in region `id`: that of the nearest region around it, or of itself, that declares the
name. The references of a file are resolved by this search when the file has been read (`ScopeTree.ofRecord`), and names
that are asked for later are too (`ScopeTree.resolve`). -/
def resolve (scopes : Array Scope) (id : Nat) (name : String) : Option Nat :=
  (chain scopes id).findSome? fun s => scopes[s]?.bind (·.lookup name)

end Scope

namespace ScopeTree

/-- Sort the numbers of the references by the bindings they mean. -/
def collectUses (bindingCount : Nat) (references : List Reference) : Array (List Nat) :=
  let step (uses : Array (List Nat) × Nat) (r : Reference) : Array (List Nat) × Nat :=
    match r.binding with
    | some id => (uses.1.modify id (uses.2 :: ·), uses.2 + 1)
    | none => (uses.1, uses.2 + 1)
  (references.foldl step (Array.replicate bindingCount [], 0)).1.map List.reverse

/-- Resolve the references of a record. -/
def ofRecord (d : ScopeRecord) : ScopeTree :=
  let references := d.references.map fun r => { r with binding := Scope.resolve d.scopes r.scope r.name }
  { scopes := d.scopes
    bindings := d.bindings
    references := references
    declaredAt := d.declaredAt
    uses := collectUses d.bindings.size references.toList }

/-- The scope tree of a syntax tree. -/
def ofTree (t : Tree) : ScopeTree := ofRecord (t.outline.record [] .empty)

/-- The binding declared by the identifier at a span. -/
def bindingAt? (t : ScopeTree) (span : Span) : Option Nat := t.declaredAt.lookup span.start

/-- The references that mean a binding. -/
def referencesTo (t : ScopeTree) (id : Nat) : List Reference :=
  (t.uses[id]?.getD []).filterMap (t.references[·]?)

/-- The binding that a name means in a region. -/
def resolve (t : ScopeTree) (scope : Nat) (name : String) : Option Nat := Scope.resolve t.scopes scope name

/-- The nearest function or file around a region, which may be the region itself. -/
def functionScopeOf (t : ScopeTree) (id : Nat) : Nat :=
  let chain := Scope.chain t.scopes id
  (chain.find? fun s => t.scopes[s]?.any (·.kind.isFunctionLike)).getD (chain.getLastD id)

/-- The region with the greatest number that holds an offset, or the file. -/
def scopeAt (t : ScopeTree) (offset : Nat) : Nat :=
  ((List.range t.scopes.size).reverse.find? fun id => t.scopes[id]?.any (·.span.holds offset)).getD 0

/-- The region at an offset is a function or the file. -/
def isFunctionLikeAt (t : ScopeTree) (offset : Nat) : Bool :=
  t.scopes[t.scopeAt offset]?.any (·.kind.isFunctionLike)

end ScopeTree

end ScriptTidy
