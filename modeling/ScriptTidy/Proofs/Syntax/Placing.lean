import ScriptTidy.Syntax.Tree

/-!
# Building is a recursion over the bare tree

`BareNode.build` moves a cursor and keeps the open nodes on a stack. What it makes of a bare tree is what a recursion
makes of it that hands down where full spans may start (`place`), unless the tree has too many levels (`build_eq`). The
proof follows the tree: the run on a node just entered comes to where the node is finished and left, or stops because
of its levels (`run_enter`), and so does the run on the first of some siblings (`run_enterAll`).
-/

namespace ScriptTidy

namespace BareNode

/-- The number of levels of a tree. -/
def height : BareNode → Nat
  | mk _ children => heightAll children + 1
where
  heightAll : List BareNode → Nat
    | [] => 0
    | n :: ns => max n.height (heightAll ns)

/-- Where the node behind `n` may start its full span, when `n` may start its own at `before`. Comments do not
count, so that they belong to the node behind them. -/
def limitAfter (before : Nat) (n : BareNode) : Nat :=
  if n.label.kind = .comment then before else n.label.span.stop

/-- The syntax node of a bare node whose full span may start at `before`. -/
def place (before : Nat) : BareNode → Node
  | mk label children =>
    let fullStart := min before label.span.start
    .mk ⟨label.kind, label.field, label.named, label.erroneous || label.missing, label.span, fullStart⟩
      (placeAll fullStart children)
where
  placeAll (before : Nat) : List BareNode → List Node
    | [] => []
    | n :: ns => n.place before :: placeAll (limitAfter before n) ns

end BareNode

namespace OpenNode

open BareNode

/-- An open node after children that are placed behind what it has. -/
def takeAll (p : OpenNode) (ns : List BareNode) : OpenNode :=
  ns.foldl (fun p n => p.take (n.place p.previousStop)) p

private theorem previousStop_take (p : OpenNode) (n : BareNode) :
    (p.take (n.place p.previousStop)).previousStop = limitAfter p.previousStop n := by
  cases n
  rfl

private theorem node_takeAll (p : OpenNode) (ns : List BareNode) :
    (p.takeAll ns).node = .mk p.label (p.children.toList ++ place.placeAll p.previousStop ns) := by
  induction ns generalizing p with
  | nil => simp [takeAll, node, place.placeAll]
  | cons n ns ih =>
    rw [takeAll, List.foldl_cons, ← takeAll, ih, previousStop_take, place.placeAll]
    simp [take]

private theorem node_enter (cursor : Cursor) (before : Nat) :
    ((enter cursor before).takeAll cursor.node.children).node = cursor.node.place before := by
  rw [node_takeAll]
  obtain ⟨⟨label, children⟩, later, around⟩ := cursor
  rfl

end OpenNode

namespace BareNode

/-- To prove something of all bare nodes, prove it of a node from its children. -/
theorem induction {P : BareNode → Prop} (h : ∀ label children, (∀ c ∈ children, P c) → P (mk label children)) :
    ∀ n, P n
  | mk label children => h label children (inductionAll children)
where
  inductionAll : ∀ ns : List BareNode, ∀ c ∈ ns, P c
    | [] => by simp
    | n :: ns => by
      intro c hc
      rcases List.mem_cons.1 hc with hc | hc
      · exact hc ▸ induction h n
      · exact inductionAll ns c hc

private theorem one_le_heightAll (n : BareNode) (ns : List BareNode) : 1 ≤ height.heightAll (n :: ns) := by
  cases n
  rw [height.heightAll, height]
  omega

namespace Cursor

/-- What a run makes of where leaving nodes ended. -/
def resume : Left → Except ParseFailure Node
  | .root n => .ok n
  | .sibling cursor stack => cursor.run stack

private theorem run_of_leaf {cursor : Cursor} (h : cursor.node.children = []) (top : OpenNode) (below : List OpenNode) :
    cursor.run (top :: below) = resume (cursor.leave top.node below) := by
  have hchild : cursor.firstChild? = none := by rw [firstChild?, h]
  rw [run]
  split
  · rename_i child heq
    cases hchild.symm.trans heq
  · split <;> rename_i heq <;> rw [heq] <;> rfl

private theorem run_of_cons {cursor : Cursor} {child : BareNode} {children : List BareNode}
    (h : cursor.node.children = child :: children) (top : OpenNode) (below : List OpenNode) :
    cursor.run (top :: below) =
      if maxLevels ≤ below.length + 1 then .error (.tooDeep maxLevels)
      else run ⟨child, children, (cursor.node, cursor.later) :: cursor.around⟩
        (.enter ⟨child, children, (cursor.node, cursor.later) :: cursor.around⟩ top.previousStop :: top :: below) := by
  have hchild : cursor.firstChild? = some ⟨child, children, (cursor.node, cursor.later) :: cursor.around⟩ := by
    rw [firstChild?, h]
  rw [run]
  split
  · rename_i found heq
    cases hchild.symm.trans heq
    rfl
  · rename_i heq
    cases hchild.symm.trans heq

end Cursor

open Cursor OpenNode

/-- A run on the node, just entered, finishes the node and leaves it, or has too many levels below it. -/
def RunsOff (n : BareNode) : Prop :=
  ∀ later around before below, below.length < maxLevels →
    run ⟨n, later, around⟩ (.enter ⟨n, later, around⟩ before :: below) =
      if maxLevels < below.length + n.height then .error (.tooDeep maxLevels)
      else resume (leave ⟨n, later, around⟩ (n.place before) below)

/-- A run on the first of some siblings, just entered, finishes and leaves all of them and then their parent. -/
theorem run_enterAll {n : BareNode} {ns : List BareNode} (hrun : ∀ m ∈ n :: ns, m.RunsOff) (parent : BareNode)
    (later : List BareNode) (around : List (BareNode × List BareNode)) (p : OpenNode) {below : List OpenNode}
    (hroom : below.length + 1 < maxLevels) :
    run ⟨n, ns, (parent, later) :: around⟩ (.enter ⟨n, ns, (parent, later) :: around⟩ p.previousStop :: p :: below) =
      if maxLevels < below.length + 1 + height.heightAll (n :: ns) then .error (.tooDeep maxLevels)
      else resume (leave ⟨parent, later, around⟩ (p.takeAll (n :: ns)).node below) := by
  induction ns generalizing n p with
  | nil =>
    rw [hrun n List.mem_cons_self _ _ _ (p :: below) hroom, height.heightAll, height.heightAll, Nat.max_zero,
      List.length_cons]
    rfl
  | cons next ns ih =>
    -- leaving `n` enters the next sibling, and the parent has taken `n`
    have hleave : leave ⟨n, next :: ns, (parent, later) :: around⟩ (n.place p.previousStop) (p :: below) =
        .sibling ⟨next, ns, (parent, later) :: around⟩
          (.enter ⟨next, ns, (parent, later) :: around⟩ (p.take (n.place p.previousStop)).previousStop ::
            p.take (n.place p.previousStop) :: below) := rfl
    have hmax : height.heightAll (n :: next :: ns) = max n.height (height.heightAll (next :: ns)) := rfl
    rw [hrun n List.mem_cons_self _ _ _ (p :: below) hroom, hleave, resume,
      ih (fun m hm => hrun m (List.mem_cons_of_mem _ hm)) _, List.length_cons]
    by_cases hfirst : maxLevels < below.length + 1 + n.height
    · rw [if_pos hfirst, if_pos (by omega)]
    · rw [if_neg hfirst]
      by_cases hrest : maxLevels < below.length + 1 + height.heightAll (next :: ns)
      · rw [if_pos hrest, if_pos (by omega)]
      · rw [if_neg hrest, if_neg (by omega)]
        rfl

theorem run_enter (n : BareNode) : n.RunsOff := by
  induction n using BareNode.induction with
  | h label children ih =>
    intro later around before below hbelow
    cases children with
    | nil =>
      have hheight : (mk label []).height = 1 := rfl
      rw [run_of_leaf rfl, hheight, if_neg (by omega)]
      rfl
    | cons child children =>
      have hheight : (mk label (child :: children)).height = height.heightAll (child :: children) + 1 := rfl
      have hone := one_le_heightAll child children
      rw [run_of_cons rfl, hheight]
      by_cases hroom : below.length + 1 < maxLevels
      · rw [if_neg (by omega), run_enterAll ih _ _ _ _ hroom, ← node_enter ⟨_, later, around⟩ before]
        simp only [Nat.add_assoc, Nat.add_comm 1]
        rfl
      · rw [if_pos (by omega), if_pos (by omega)]

/-- Building a tree is placing it, unless it has too many levels. -/
theorem build_eq (root : BareNode) :
    root.build = if maxLevels < root.height then .error (.tooDeep maxLevels) else .ok (root.place 0) := by
  rw [build, ofRoot, run_enter root [] [] 0 [] (by decide : 0 < maxLevels), List.length_nil, Nat.zero_add]
  rfl

end BareNode

theorem Tree.ofBare_eq (bare : BareNode) (source : String) (dialect : Dialect) :
    ofBare bare source dialect =
      if maxLevels < bare.height then .error (.tooDeep maxLevels) else .ok ⟨bare.place 0, source, dialect⟩ := by
  rw [ofBare, BareNode.build_eq]
  split <;> rfl

end ScriptTidy
