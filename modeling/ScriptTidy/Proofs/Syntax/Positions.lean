import ScriptTidy.Proofs.Syntax.Copies

/-!
# The positions of a tree

Equal nodes may stand in several places of a tree. What tells them apart is the path of child indices that leads to
each of them (`Node.at?`). `Node.positions` lists these paths by recursion over the tree.

* Every path that leads to a node is a position (`mem_positions`).
* The positions come in strict lexicographic order: that of a node in front of those inside of it, and these in front of
  those of the siblings behind (`pairwise_positions`).
* A walk goes along the positions and meets at each the node that stands there, under the node that stands one step
  above (`map_some_walk`).
-/

namespace ScriptTidy

namespace Node

variable {n c : Node} {path : List Nat}

/-- The paths to the nodes of a tree: the empty one to the root, then those to the nodes of each child. -/
def positions : Node → List (List Nat)
  | mk _ children => [] :: positionsFrom 0 children
where
  positionsFrom (i : Nat) : List Node → List (List Nat)
    | [] => []
    | n :: ns => n.positions.map (i :: ·) ++ positionsFrom (i + 1) ns

open positions

/-- The node at the end of a path, with the one that stands a step above. The root has the given parent. -/
def visitAt? (parent : Option Node) (n : Node) (path : List Nat) : Option Visit :=
  (n.at? path).map fun m => ⟨m, if path = [] then parent else n.at? path.dropLast⟩

theorem at?_concat (n : Node) (path : List Nat) (i : Nat) :
    n.at? (path ++ [i]) = (n.at? path).bind fun parent => parent.children[i]? := by
  induction path generalizing n with
  | nil => simp [at?]
  | cons j path ih =>
    rw [List.cons_append, at?, at?, Option.bind_assoc]
    exact Option.bind_congr fun c _ => ih c

private theorem positions_eq (n : Node) : n.positions = [] :: positionsFrom 0 n.children := by
  cases n
  rfl

private theorem mem_positionsFrom {i : Nat} {ns : List Node} :
    path ∈ positionsFrom i ns ↔ ∃ j m rest, ns[j]? = some m ∧ rest ∈ m.positions ∧ path = (i + j) :: rest := by
  induction ns generalizing i with
  | nil => simp [positionsFrom]
  | cons n ns ih =>
    rw [positionsFrom, List.mem_append, List.mem_map, ih]
    constructor
    · rintro (⟨rest, hrest, rfl⟩ | ⟨j, m, rest, hm, hrest, rfl⟩)
      · exact ⟨0, n, rest, rfl, hrest, rfl⟩
      · refine ⟨j + 1, m, rest, by simpa using hm, hrest, ?_⟩
        rw [Nat.add_right_comm, Nat.add_assoc]
    · rintro ⟨j, m, rest, hm, hrest, rfl⟩
      cases j with
      | zero =>
        obtain rfl : n = m := by simpa using hm
        exact .inl ⟨rest, hrest, rfl⟩
      | succ j =>
        refine .inr ⟨j, m, rest, by simpa using hm, hrest, ?_⟩
        rw [Nat.add_right_comm, Nat.add_assoc]

/-- The positions are the paths that lead to a node. -/
theorem mem_positions : path ∈ n.positions ↔ ∃ m, n.at? path = some m := by
  induction path generalizing n with
  | nil => simp [positions_eq, at?]
  | cons i path ih =>
    rw [positions_eq, List.mem_cons, mem_positionsFrom, at?]
    constructor
    · rintro (hnil | ⟨j, c, rest, hc, hrest, heq⟩)
      · cases hnil
      · obtain ⟨rfl, rfl⟩ := List.cons.inj heq
        obtain ⟨m, hm⟩ := ih.1 hrest
        rw [Nat.zero_add, hc]
        exact ⟨m, hm⟩
    · rintro ⟨m, hm⟩
      obtain ⟨c, hc, hm⟩ := Option.bind_eq_some_iff.1 hm
      exact .inr ⟨i, c, path, hc, ih.2 ⟨m, hm⟩, by rw [Nat.zero_add]⟩

theorem pairwise_positions (n : Node) : n.positions.Pairwise (· < ·) := by
  induction n using Node.induction with
  | h label children ih =>
    have hfrom : ∀ (i : Nat) (cs : List Node), (∀ c ∈ cs, c.positions.Pairwise (· < ·)) →
        (positionsFrom i cs).Pairwise (· < ·) := by
      intro i cs
      induction cs generalizing i with
      | nil => exact fun _ => .nil
      | cons c cs ihcs =>
        intro hcs
        rw [positionsFrom, List.pairwise_append, List.pairwise_map]
        refine ⟨(hcs c (by simp)).imp fun hlt => ?_, ihcs (i + 1) fun d hd => hcs d (by simp [hd]), ?_⟩
        · exact List.cons_lt_cons_iff.2 (.inr ⟨rfl, hlt⟩)
        · -- the index of a later child is greater, whatever comes behind it
          intro p hp q hq
          obtain ⟨a, -, rfl⟩ := List.mem_map.1 hp
          obtain ⟨j, m, rest, -, -, rfl⟩ := mem_positionsFrom.1 hq
          exact List.cons_lt_cons_iff.2 (.inl (by omega))
    rw [positions, List.pairwise_cons]
    refine ⟨fun p hp => ?_, hfrom 0 children ih⟩
    obtain ⟨j, m, rest, -, -, rfl⟩ := mem_positionsFrom.1 hp
    exact List.nil_lt_cons _ _

private theorem visitAt?_cons {i : Nat} (hc : n.children[i]? = some c) (parent : Option Node) (path : List Nat) :
    n.visitAt? parent (i :: path) = c.visitAt? (some n) path := by
  unfold visitAt?
  cases path with
  | nil => simp [at?, hc]
  | cons j path => simp [at?, hc]

private theorem map_some_visits (n : Node) (parent : Option Node) :
    (n.visits parent).map some = n.positions.map (n.visitAt? parent) := by
  induction n using Node.induction generalizing parent with
  | h label children ih =>
    generalize hn : mk label children = n
    have hchildren : n.children = children := by rw [← hn]; rfl
    -- the visits of the children from index `i` on
    have hfrom : ∀ (i : Nat) (cs : List Node), n.children.drop i = cs →
        (cs.flatMap (visits (some n))).map some = (positionsFrom i cs).map (n.visitAt? parent) := by
      intro i cs
      induction cs generalizing i with
      | nil => exact fun _ => rfl
      | cons c cs ihcs =>
        intro hdrop
        have hget : n.children[i]? = some c := by
          rw [← List.head?_drop, hdrop]
          rfl
        have hrest : n.children.drop (i + 1) = cs := by rw [← List.drop_drop, hdrop, List.drop_one, List.tail_cons]
        have hc : c ∈ children := hchildren ▸ List.mem_of_getElem? hget
        rw [List.flatMap_cons, List.map_append, positionsFrom, List.map_append, ihcs (i + 1) hrest, ih c hc (some n),
          List.map_map]
        congr 1
        exact List.map_congr_left fun path _ => (visitAt?_cons hget parent path).symm
    rw [visits_eq, positions_eq, List.map_cons, List.map_cons, hfrom 0 _ List.drop_zero]
    rfl

/-- A walk meets, at one position after the other, the node that stands there under the node around it. -/
theorem map_some_walk (n : Node) : n.walk.map some = n.positions.map (n.visitAt? none) := by
  rw [walk_eq_visits, map_some_visits]

private theorem map_some_nodes (n : Node) : n.nodes.map some = n.positions.map fun path => n.at? path := by
  have hmap := congrArg (List.map (Option.map Visit.node)) n.map_some_walk
  rw [List.map_map, List.map_map] at hmap
  have hnode : ∀ path, (Option.map Visit.node ∘ n.visitAt? none) path = n.at? path := by
    intro path
    simp [visitAt?, Function.comp_def]
  rw [nodes, List.map_map, List.map_congr_left fun path _ => (hnode path).symm]
  exact hmap

end Node

section Keys

variable {α β κ : Type} {xs : List α} {keys : List κ} {find : κ → Option α}

/-- Members of a list that are found under some keys, each under one, are filtered by filtering the keys. -/
private theorem map_some_filter (h : xs.map some = keys.map find) (p : α → Bool) :
    (xs.filter p).map some = (keys.filter fun k => (find k).any p).map find := by
  have hfilter := congrArg (List.filter (Option.any p)) h
  rw [List.filter_map, List.filter_map] at hfilter
  exact hfilter

theorem map_some_filterMap (h : xs.map some = keys.map find) (f : α → Option β) :
    (xs.filterMap f).map some =
      (keys.filter fun k => ((find k).bind f).isSome).map fun k => (find k).bind f := by
  have hresults : (xs.filterMap f).map some = (xs.map f).filter (·.isSome) := by
    clear h
    induction xs with
    | nil => rfl
    | cons x xs ih =>
      rw [List.filterMap_cons, List.map_cons, List.filter_cons]
      cases hx : f x <;> simp [ih]
  have hkeys : xs.map f = keys.map fun k => (find k).bind f := by
    have hbind := congrArg (List.map (Option.bind · f)) h
    rw [List.map_map, List.map_map] at hbind
    exact hbind
  rw [hresults, hkeys, List.filter_map]
  rfl

end Keys

namespace Node

/-- The nodes of a kind are those at the positions where such a node stands. -/
theorem map_some_nodesOfKind (n : Node) (kind : Kind) : (n.nodesOfKind kind).map some =
    (n.positions.filter fun path => (n.at? path).any (·.kind = kind)).map fun path => n.at? path :=
  map_some_filter n.map_some_nodes _

/-- The number of faults is that of the positions where a faulty node stands. -/
theorem faultCount_eq (n : Node) : n.faultCount = n.positions.countP fun path => (n.at? path).any (·.faulty) := by
  have hfaulty := congrArg List.length (map_some_filter n.map_some_nodes (·.faulty))
  rw [List.length_map, List.length_map] at hfaulty
  rw [faultCount, List.countP_eq_length_filter, hfaulty, List.countP_eq_length_filter]

end Node

end ScriptTidy
