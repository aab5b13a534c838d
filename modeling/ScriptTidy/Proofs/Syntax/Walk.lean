import ScriptTidy.Syntax.Node

/-!
# The nodes of a tree

`Node.walk` works off a list of pending nodes. What it lists is the recursive pre-order: a node, then the nodes of its
children one after the other (`walkFrom_eq_flatMap`, `nodes_eq`). So the nodes of a tree are the node itself and the
nodes of its children (`mem_nodes`).
-/

namespace ScriptTidy

namespace Node

/-- To prove something of all nodes, prove it of a node from its children. -/
theorem induction {P : Node → Prop} (h : ∀ label children, (∀ c ∈ children, P c) → P (mk label children)) :
    ∀ n, P n
  | mk label children => h label children (inductionAll children)
where
  inductionAll : ∀ ns : List Node, ∀ c ∈ ns, P c
    | [] => by simp
    | n :: ns => by
      intro c hc
      rcases List.mem_cons.1 hc with hc | hc
      · exact hc ▸ induction h n
      · exact inductionAll ns c hc

/-- The visits of a tree in recursive pre-order, when its root has the given parent. -/
def visits (parent : Option Node) : Node → List Visit
  | mk label children => ⟨mk label children, parent⟩ :: visitsAll (some (mk label children)) children
where
  visitsAll (parent : Option Node) : List Node → List Visit
    | [] => []
    | n :: ns => n.visits parent ++ visitsAll parent ns

private theorem visitsAll_eq_flatMap (parent : Option Node) (ns : List Node) :
    visits.visitsAll parent ns = ns.flatMap (visits parent) := by
  induction ns with
  | nil => rfl
  | cons n ns ih => simp [visits.visitsAll, ih]

theorem visits_eq (parent : Option Node) (n : Node) :
    n.visits parent = ⟨n, parent⟩ :: n.children.flatMap (visits (some n)) := by
  cases n with
  | mk label children => simp [visits, visitsAll_eq_flatMap, Node.children]

/-- The walk meets the pending trees one after the other, each in pre-order. -/
theorem walkFrom_eq_flatMap (pending : List Visit) :
    walkFrom pending = pending.flatMap fun v => v.node.visits v.parent := by
  induction pending using walkFrom.induct with
  | case1 => simp [walkFrom]
  | case2 v pending ih =>
    rw [walkFrom, ih, List.flatMap_append, List.flatMap_cons, visits_eq v.parent v.node]
    simp [childVisits, List.flatMap_map]

theorem walk_eq_visits (n : Node) : n.walk = n.visits none := by
  simp [walk, walkFrom_eq_flatMap]

/-- The parent of the root changes none of the nodes that are met. -/
private theorem map_node_visits (parent : Option Node) (n : Node) : (n.visits parent).map (·.node) = n.nodes := by
  rw [nodes, walk_eq_visits, visits_eq, visits_eq none n]
  rfl

theorem nodes_eq (n : Node) : n.nodes = n :: n.children.flatMap nodes := by
  rw [nodes, walk_eq_visits, visits_eq, List.map_cons, List.map_flatMap]
  simp only [map_node_visits]

theorem mem_nodes {m n : Node} : m ∈ n.nodes ↔ m = n ∨ ∃ c ∈ n.children, m ∈ c.nodes := by
  rw [nodes_eq]
  simp

theorem mem_nodes_self (n : Node) : n ∈ n.nodes := mem_nodes.2 (.inl rfl)

theorem mem_nodes_of_child {m n c : Node} (hc : c ∈ n.children) (hm : m ∈ c.nodes) : m ∈ n.nodes :=
  mem_nodes.2 (.inr ⟨c, hc, hm⟩)

theorem child_mem_nodes {n c : Node} (hc : c ∈ n.children) : c ∈ n.nodes :=
  mem_nodes_of_child hc (mem_nodes_self c)

/-- A walk meets a node under its parent, and the root under none. -/
theorem mem_walk {n : Node} {v : Visit} :
    v ∈ n.walk ↔ v = ⟨n, none⟩ ∨ ∃ p ∈ n.nodes, v.parent = some p ∧ v.node ∈ p.children := by
  have hvisits : ∀ (n : Node) (parent : Option Node), v ∈ n.visits parent ↔
      v = ⟨n, parent⟩ ∨ ∃ p ∈ n.nodes, v.parent = some p ∧ v.node ∈ p.children := by
    intro n
    induction n using Node.induction with
    | h label children ih =>
      intro parent
      rw [visits_eq, List.mem_cons, List.mem_flatMap]
      apply or_congr Iff.rfl
      constructor
      · rintro ⟨c, hc, hv⟩
        rcases (ih c hc _).1 hv with rfl | ⟨p, hp, hv⟩
        · exact ⟨_, mem_nodes_self _, rfl, hc⟩
        · exact ⟨p, mem_nodes_of_child hc hp, hv⟩
      · rintro ⟨p, hp, hparent, hnode⟩
        rcases mem_nodes.1 hp with rfl | ⟨c, hc, hp⟩
        · refine ⟨v.node, hnode, (ih _ hnode _).2 (.inl ?_)⟩
          cases v
          cases hparent
          rfl
        · exact ⟨c, hc, (ih c hc _).2 (.inr ⟨p, hp, hparent, hnode⟩)⟩
  rw [walk_eq_visits, hvisits]

theorem mem_children_of_proper {n c : Node} (h : c ∈ n.properChildren) : c ∈ n.children := (List.mem_filter.1 h).1

theorem mem_children_of_field {n c : Node} {field : Field} (h : n.childByField? field = some c) : c ∈ n.children :=
  List.mem_of_find?_eq_some h

/-- If no two children are in a field, then those in the field are the one that is found, or none. -/
theorem filter_field_of_only {n : Node} {field : Field}
    (honly : (n.children.filter (·.field = some field)).length ≤ 1) :
    n.children.filter (·.field = some field) = (n.childByField? field).toList := by
  rw [childByField?, ← List.head?_filter]
  generalize n.children.filter (·.field = some field) = cs at honly
  match cs with
  | [] => rfl
  | [c] => rfl
  | c :: d :: cs => simp at honly

theorem childByField?_of_only {n c : Node} {field : Field}
    (honly : (n.children.filter (·.field = some field)).length ≤ 1) (hc : c ∈ n.children)
    (hfield : c.field = some field) : n.childByField? field = some c := by
  have hmem : c ∈ n.children.filter (·.field = some field) := List.mem_filter.2 ⟨hc, by simpa using hfield⟩
  rw [filter_field_of_only honly] at hmem
  exact Option.mem_toList.1 hmem

theorem mem_children_of_kind {n c : Node} {kind : Kind} (h : n.childOfKind? kind = some c) : c ∈ n.children :=
  List.mem_of_find?_eq_some h

end Node

end ScriptTidy
