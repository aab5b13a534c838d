import ScriptTidy.Syntax.BareNode
import ScriptTidy.Syntax.Node

/-!
# Building syntax nodes

A cursor goes over a bare tree, and the nodes that it has entered and not left stand open on a stack, the innermost
on top. Every node learns where its full span starts when it is entered. Trees that nest too deep are refused.
-/

namespace ScriptTidy

/-- The number of levels that a syntax tree may have. -/
def maxLevels : Nat := 512

/-- Why a text has no syntax tree. -/
inductive ParseFailure where
  /-- There is no tree for the thing named. -/
  | noTree (what : String)
  /-- The tree has more than `limit` levels. -/
  | tooDeep (limit : Nat)
  deriving DecidableEq, Repr

/-- The sentence that describes a parse failure. -/
def ParseFailure.message : ParseFailure → String
  | noTree what => s!"parser produced no tree for {what}"
  | tooDeep limit => s!"source nests deeper than {limit} levels"

/-- A node whose children are still being collected. -/
structure OpenNode where
  label : Label
  children : Array Node
  /-- Where the last child so far stops that is no comment, or where the full span starts. -/
  previousStop : Nat

namespace OpenNode

/-- Open the node under the cursor, whose full span may start at `before`. -/
def enter (cursor : BareNode.Cursor) (before : Nat) : OpenNode :=
  let bare := cursor.node.label
  let fullStart := min before bare.span.start
  { label := ⟨bare.kind, bare.field, bare.named, bare.erroneous || bare.missing, bare.span, fullStart⟩
    children := #[]
    previousStop := fullStart }

/-- Add a child that is finished. Comments do not count as previous, so that they belong to the node behind them. -/
def take (n : OpenNode) (done : Node) : OpenNode :=
  { n with
    children := n.children.push done
    previousStop := if done.kind = .comment then n.previousStop else done.span.stop }

/-- The node with the children it has so far. -/
def node (n : OpenNode) : Node := .mk n.label n.children.toList

end OpenNode

namespace BareNode

/-- Where leaving nodes ends. -/
inductive Left where
  /-- The root is finished. -/
  | root (n : Node)
  /-- The cursor has entered the next sibling of a finished node. -/
  | sibling (cursor : Cursor) (stack : List OpenNode)

namespace Cursor

/-- Leave the nodes that are finished, `done` first, until one has a next sibling. -/
def leave (cursor : Cursor) (done : Node) : List OpenNode → Left
  | [] => .root done
  | parent :: below =>
    let parent := parent.take done
    match cursor.nextSibling? with
    | some next => .sibling next (.enter next parent.previousStop :: parent :: below)
    | none => (cursor.parent?.getD cursor).leave parent.node below

theorem ahead_lt_of_leave {cursor next : Cursor} {done : Node} {below stack : List OpenNode}
    (h : cursor.leave done below = .sibling next stack) : next.ahead < cursor.behind := by
  induction below generalizing cursor done with
  | nil => cases h
  | cons parent below ih =>
    unfold leave at h
    dsimp only at h
    split at h
    · rename_i hnext
      cases h
      exact ahead_lt_of_nextSibling? hnext
    · exact Nat.lt_of_lt_of_le (ih h) cursor.behind_parent?_le

/-- Build the rest of the tree, with the nodes on the stack open and the one under the cursor on top. -/
def run (cursor : Cursor) (stack : List OpenNode) : Except ParseFailure Node :=
  match _hchild : cursor.firstChild? with
  | some child =>
    if maxLevels ≤ stack.length then .error (.tooDeep maxLevels)
    else child.run (.enter child (stack.head?.elim 0 (·.previousStop)) :: stack)
  | none =>
    match stack with
    | [] => .error (.noTree "empty cursor")
    | top :: below =>
      match _hleave : cursor.leave top.node below with
      | .root n => .ok n
      | .sibling next stack => next.run stack
termination_by cursor.ahead
decreasing_by
  · exact ahead_lt_of_firstChild? ‹_›
  · exact Nat.lt_of_lt_of_le (ahead_lt_of_leave ‹_›) (Nat.le_add_left _ _)

end Cursor

/-- The syntax node of a bare tree with everything below it. -/
def build (root : BareNode) : Except ParseFailure Node :=
  (Cursor.ofRoot root).run [.enter (.ofRoot root) 0]

end BareNode

end ScriptTidy
