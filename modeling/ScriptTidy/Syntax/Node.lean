import ScriptTidy.Syntax.Kind
import ScriptTidy.Text.Slice

/-!
# Syntax nodes

A syntax node covers a span of a text and has its children in source order. Besides the span, which leaves out the
blanks and comments in front of the node, it has a *full* span that takes them in.
-/

namespace ScriptTidy

/-- What a node says about itself. -/
structure Label where
  kind : Kind
  /-- The field that the node fills in its parent. -/
  field : Option Field
  /-- The node is named by a rule of the grammar and not only by its text. -/
  named : Bool
  /-- The node stands for text that the parser could not fit in, or for text that it missed. -/
  faulty : Bool
  span : Span
  /-- Where the full span starts. -/
  fullStart : Nat
  deriving DecidableEq, Repr

/-- A node with its children. -/
inductive Node where
  | mk (label : Label) (children : List Node)
  deriving Repr

namespace Node

def label : Node → Label
  | mk label _ => label

def children : Node → List Node
  | mk _ children => children

def kind (n : Node) : Kind := n.label.kind

def field (n : Node) : Option Field := n.label.field

def named (n : Node) : Bool := n.label.named

def faulty (n : Node) : Bool := n.label.faulty

def span (n : Node) : Span := n.label.span

/-- The span together with the blanks and comments in front of it. -/
def fullSpan (n : Node) : Span := ⟨n.label.fullStart, n.label.span.stop⟩

/-- The text of the node's span. -/
def text (n : Node) (source : String) : String := slice source n.span

/-- The first child that fills a field. -/
def childByField? (n : Node) (field : Field) : Option Node := n.children.find? (·.field = some field)

/-- The first child of a kind. -/
def childOfKind? (n : Node) (kind : Kind) : Option Node := n.children.find? (·.kind = kind)

/-- A node that is named and no comment. -/
def isProper (n : Node) : Bool := n.named && n.kind ≠ .comment

/-- The named children, without comments. -/
def properChildren (n : Node) : List Node := n.children.filter isProper

/-- The number of nodes in a tree. -/
def size : Node → Nat
  | mk _ children => sizeAll children + 1
where
  sizeAll : List Node → Nat
    | [] => 0
    | n :: ns => n.size + sizeAll ns

/-- The deepest node in a descent from `n` that always goes to the first child that covers the span. -/
def descend (target : Span) : Node → Node
  | mk label children => (descendFirst children).getD (mk label children)
where
  descendFirst : List Node → Option Node
    | [] => none
    | n :: ns => if n.span.covers target then some (n.descend target) else descendFirst ns

/-- The smallest node that covers a span, if the tree covers it at all. -/
def smallestCovering? (n : Node) (target : Span) : Option Node :=
  if n.span.covers target then some (n.descend target) else none

/-- A node as a walk meets it, together with its parent. -/
structure Visit where
  node : Node
  parent : Option Node

/-- The children of a node as the walk will meet them. -/
def childVisits (n : Node) : List Visit := n.children.map fun c => ⟨c, some n⟩

/-- The number of nodes in the trees that a walk has before it. -/
def pendingSize : List Visit → Nat
  | [] => 0
  | v :: pending => v.node.size + pendingSize pending

theorem pendingSize_append (vs ws : List Visit) : pendingSize (vs ++ ws) = pendingSize vs + pendingSize ws := by
  induction vs with
  | nil => simp [pendingSize]
  | cons v vs ih => simp [pendingSize, ih, Nat.add_assoc]

theorem pendingSize_map (parent : Option Node) (ns : List Node) :
    pendingSize (ns.map fun n => ⟨n, parent⟩) = size.sizeAll ns := by
  induction ns with
  | nil => rfl
  | cons n ns ih => simp [pendingSize, size.sizeAll, ih]

theorem pendingSize_childVisits_lt (n : Node) : pendingSize n.childVisits < n.size := by
  cases n with
  | mk label children =>
    rw [childVisits, pendingSize_map, size]
    exact Nat.lt_succ_self _

/-- Meet the first of the pending nodes, put its children in front of the rest, and go on. -/
def walkFrom : List Visit → List Visit
  | [] => []
  | v :: pending => v :: walkFrom (v.node.childVisits ++ pending)
termination_by pending => pendingSize pending
decreasing_by
  have := pendingSize_childVisits_lt v.node
  rw [pendingSize_append, pendingSize]
  omega

/-- All nodes of the tree, each before its children, with their parents. -/
def walk (n : Node) : List Visit := walkFrom [⟨n, none⟩]

/-- The nodes of a tree in the order of a walk. -/
def nodes (n : Node) : List Node := n.walk.map (·.node)

/-- The nodes of one kind in the order of a walk. -/
def nodesOfKind (n : Node) (kind : Kind) : List Node := n.nodes.filter (·.kind = kind)

/-- The number of faulty nodes. -/
def faultCount (n : Node) : Nat := n.nodes.countP (·.faulty)

end Node

end ScriptTidy
