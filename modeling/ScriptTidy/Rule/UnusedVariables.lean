import ScriptTidy.Rule.Basic

/-!
# Unused variables

A variable goes when every reference to it stands inside the declaration of a variable that goes. The variables that
go are found by repeated passes over the candidates, until a pass finds no other. Then every statement whose
variables all go is deleted, and from the others the variables are taken out together with one comma each.
-/

namespace ScriptTidy

namespace UnusedVariables

/-- One variable of a declaration statement. -/
structure Declarator where
  node : Node
  name : String
  /-- The binding that may go with the declarator. A pattern, a name to leave alone or no variable at all has none. -/
  binding? : Option Nat

/-- A declaration of variables that can be taken out. -/
structure Statement where
  /-- What goes when all the variables go: the declaration, or the export statement around it. -/
  outer : Node
  declarators : List Declarator

/-- The parents under which a declaration is a statement by itself. -/
def isStatementList : Kind → Bool
  | .program | .statementBlock | .switchCase | .switchDefault | .exportStatement => true
  | _ => false

/-- The binding of an identifier that the rule may take out. -/
def removableBinding? (f : Facts) (name : Node) : Option Nat :=
  if name.kind = .identifier ∧ f.settings.ignores (name.text f.tree.source) = false then
    (f.scopes.bindingAt? name.span).filter fun id =>
      f.scopes.bindings[id]?.any fun b => b.kind.isVariable && !(b.exported && f.settings.keepExported)
  else none

/-- What a child of a declaration declares. -/
def declarator (f : Facts) (node : Node) : Declarator :=
  let name? := node.childByField? .name
  ⟨node, (name?.map (·.text f.tree.source)).getD "", name?.bind (removableBinding? f)⟩

/-- The declaration that a walk meets, if it meets one that can be taken out. -/
def statement? (f : Facts) (v : Node.Visit) : Option Statement :=
  if v.node.kind = .lexicalDeclaration ∨ v.node.kind = .variableDeclaration then
    (v.parent.filter (isStatementList ·.kind)).map fun parent =>
      { outer := if parent.kind = .exportStatement then parent else v.node
        declarators := (v.node.children.filter (·.kind = .variableDeclarator)).map (declarator f) }
  else none

/-- The declarations of a file that can be taken out. -/
def statements (f : Facts) : List Statement := f.tree.root.walk.filterMap (statement? f)

/-- A declarator whose binding may go. -/
structure Candidate where
  binding : Nat
  span : Span
  deriving DecidableEq, Repr

def Declarator.candidate? (d : Declarator) : Option Candidate := d.binding?.map fun id => ⟨id, d.node.span⟩

/-- The candidates of some declarations. -/
def candidates (ss : List Statement) : List Candidate := (ss.flatMap (·.declarators)).filterMap (·.candidate?)

/-- The bindings that go, with the spans of their declarators. -/
structure Removal where
  bindings : List Nat
  spans : List Span
  deriving DecidableEq, Repr

namespace Removal

def empty : Removal := ⟨[], []⟩

/-- Some reference to the binding stands outside of everything that goes. -/
def isLive (r : Removal) (references : List Reference) : Bool :=
  references.any fun ref => !r.spans.any (·.covers ref.site.span)

/-- Let a binding go, with all its declarators. -/
def remove (r : Removal) (all : List Candidate) (id : Nat) : Removal :=
  ⟨id :: r.bindings, r.spans ++ (all.filter (·.binding = id)).map (·.span)⟩

/-- Look at one candidate. -/
def visit (uses : Nat → List Reference) (all : List Candidate) (r : Removal) (c : Candidate) : Removal :=
  if r.bindings.contains c.binding || r.isLive (uses c.binding) then r else r.remove all c.binding

/-- Look at all candidates once. -/
def pass (uses : Nat → List Reference) (all : List Candidate) (r : Removal) : Removal :=
  all.foldl (visit uses all) r

/-- Look at all candidates until nothing is added. Every pass but the last adds a binding, so that there are no more
passes than candidates. -/
def settle (uses : Nat → List Reference) (all : List Candidate) : Nat → Removal → Removal
  | 0, r => r
  | fuel + 1, r =>
    let r' := r.pass uses all
    if r'.bindings.length = r.bindings.length then r else settle uses all fuel r'

end Removal

/-- The bindings that go, of some candidates. -/
def removed (uses : Nat → List Reference) (all : List Candidate) : List Nat :=
  (Removal.empty.settle uses all all.length).bindings

/-- The deletions that take out marked spans of a list with their commas, one for each run of marked spans: from the
end of the span in front of it or, where it leads the list, up to the start of the span behind it. `kept` is the end
of the last unmarked span, and `run` the marked spans since then. -/
def runDeletions (kept : Option Nat) (run : Option Span) : List (Span × Bool) → List Span
  | [] =>
    match run, kept with
    | some r, some stop => [⟨stop, r.stop⟩]
    | _, _ => []
  | (span, true) :: rest => runDeletions kept (some ⟨(run.getD span).start, span.stop⟩) rest
  | (span, false) :: rest =>
    match run, kept with
    | some r, some stop => ⟨stop, r.stop⟩ :: runDeletions (some span.stop) none rest
    | some r, none => ⟨r.start, span.start⟩ :: runDeletions (some span.stop) none rest
    | none, _ => runDeletions (some span.stop) none rest

/-- The declarator's binding is among those that go. -/
def Declarator.goes (gone : List Nat) (d : Declarator) : Bool := d.binding?.any gone.contains

/-- The deletions that take out some of the variables of a statement. -/
def declaratorDeletions (gone : List Nat) (ds : List Declarator) : List Edit :=
  (runDeletions none none (ds.map fun d => (d.node.span, d.goes gone))).map .delete

/-- What to change about a declaration. -/
def proposeFor (gone : List Nat) (s : Statement) : Proposal :=
  let unused := s.declarators.filter (·.goes gone)
  if unused.isEmpty then .none
  else
    { edits :=
        if unused.length = s.declarators.length then [.delete s.outer.fullSpan]
        else declaratorDeletions gone s.declarators
      count := unused.length
      changes := unused.map (·.name)
      skipped := [] }

/-- What to change about the variables of a file. -/
def propose (f : Facts) : Proposal :=
  let ss := statements f
  .concat (ss.map (proposeFor (removed f.scopes.referencesTo (candidates ss))))

/-- The proposal in one sentence. -/
def headline (p : Proposal) : String :=
  if p.count = 0 then "No unused variables found!" else s!"Removed {p.count} unused variable(s)."

end UnusedVariables

end ScriptTidy
