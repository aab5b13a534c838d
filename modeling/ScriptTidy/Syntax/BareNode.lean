import ScriptTidy.Syntax.Kind
import ScriptTidy.Text.Span

/-!
# Bare trees

What a parser, which the library takes as given, makes of a text.
-/

namespace ScriptTidy

/-- What a parser says about a node. -/
structure BareLabel where
  kind : Kind
  field : Option Field
  named : Bool
  /-- The node holds text that fits no rule. -/
  erroneous : Bool
  /-- The node was put in by the parser where the text lacks it. -/
  missing : Bool
  span : Span
  deriving DecidableEq, Repr

/-- A tree as a parser gives it. -/
inductive BareNode where
  | mk (label : BareLabel) (children : List BareNode)
  deriving Repr

namespace BareNode

def label : BareNode → BareLabel
  | mk label _ => label

def children : BareNode → List BareNode
  | mk _ children => children

/-- The number of nodes in a tree. -/
def size : BareNode → Nat
  | mk _ children => sizeAll children + 1
where
  sizeAll : List BareNode → Nat
    | [] => 0
    | n :: ns => n.size + sizeAll ns

theorem sizeAll_children_lt (n : BareNode) : size.sizeAll n.children < n.size := by
  cases n with
  | mk label children =>
    rw [size]
    exact Nat.lt_succ_self _

/-- A cursor on a node of a bare tree. It can go to the first child, to the next sibling and to the parent. -/
structure Cursor where
  node : BareNode
  /-- The siblings behind the node. -/
  later : List BareNode
  /-- The nodes around the node from the inside out, each with its siblings behind it. -/
  around : List (BareNode × List BareNode)

namespace Cursor

/-- The cursor on the root of a tree. -/
def ofRoot (root : BareNode) : Cursor := ⟨root, [], []⟩

def firstChild? (cursor : Cursor) : Option Cursor :=
  match cursor.node.children with
  | [] => none
  | child :: later => some ⟨child, later, (cursor.node, cursor.later) :: cursor.around⟩

def nextSibling? (cursor : Cursor) : Option Cursor :=
  match cursor.later with
  | [] => none
  | next :: later => some ⟨next, later, cursor.around⟩

def parent? (cursor : Cursor) : Option Cursor :=
  match cursor.around with
  | [] => none
  | (parent, later) :: around => some ⟨parent, later, around⟩

/-- The number of nodes behind the subtree of the cursor. -/
def behind (cursor : Cursor) : Nat := size.sizeAll cursor.later + behindAll cursor.around
where
  behindAll : List (BareNode × List BareNode) → Nat
    | [] => 0
    | (_, later) :: around => size.sizeAll later + behindAll around

/-- The number of nodes that the cursor has not come to. -/
def ahead (cursor : Cursor) : Nat := size.sizeAll cursor.node.children + cursor.behind

theorem ahead_lt_of_firstChild? {cursor child : Cursor} (h : cursor.firstChild? = some child) :
    child.ahead < cursor.ahead := by
  unfold firstChild? at h
  split at h
  · cases h
  · rename_i c later hchildren
    cases h
    have := c.sizeAll_children_lt
    simp only [ahead, behind, behind.behindAll, hchildren, size.sizeAll]
    omega

theorem ahead_lt_of_nextSibling? {cursor next : Cursor} (h : cursor.nextSibling? = some next) :
    next.ahead < cursor.behind := by
  unfold nextSibling? at h
  split at h
  · cases h
  · rename_i n later hlater
    cases h
    have := n.sizeAll_children_lt
    simp only [ahead, behind, hlater, size.sizeAll]
    omega

theorem behind_parent?_le (cursor : Cursor) : (cursor.parent?.getD cursor).behind ≤ cursor.behind := by
  obtain ⟨node, later, around⟩ := cursor
  cases around with
  | nil => exact Nat.le_refl _
  | cons p around => simp [parent?, behind, behind.behindAll]

end Cursor

end BareNode

end ScriptTidy
