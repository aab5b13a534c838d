import ScriptTidy.Proofs.Syntax.FullSpans

/-!
# Built trees are copies

A path of child indices leads to a node of a tree (`at?`). Where one leads in a bare tree, the same path leads in the
tree built from it, and to a node that says the same of itself (`rel_at?_place`). A tree has as many levels as its
longest path has steps, and one more (`lt_height_iff`). Where full spans start depends on the siblings in front alone
(`start_fullSpan_of_getElem?`).
-/

namespace ScriptTidy

/-- The node that a path of child indices leads to. -/
def Node.at? : List Nat → Node → Option Node
  | [], n => some n
  | i :: path, n => n.children[i]?.bind (at? path)

/-- The node that a path of child indices leads to. -/
def BareNode.at? : List Nat → BareNode → Option BareNode
  | [], n => some n
  | i :: path, n => n.children[i]?.bind (at? path)

namespace Node

/-- The node says of itself what the parser says of the bare node. -/
structure Copies (n : Node) (bare : BareNode) : Prop where
  kind : n.kind = bare.label.kind
  field : n.field = bare.label.field
  named : n.named = bare.label.named
  faulty : n.faulty = (bare.label.erroneous || bare.label.missing)
  span : n.span = bare.label.span

/-- Where the last child before index `i` stops that is no comment. If there is none, where the full span of the node
starts. -/
def limitBefore (n : Node) (i : Nat) : Nat :=
  ((n.children.take i).reverse.find? (·.kind ≠ .comment)).elim n.fullSpan.start (·.span.stop)

end Node

namespace BareNode

open place

private theorem copies_place (n : BareNode) (before : Nat) : (n.place before).Copies n := by
  cases n
  exact ⟨rfl, rfl, rfl, rfl, rfl⟩

/-! ### Paths -/

/-- Placed one behind the other, a node may start its full span where those in front of it allow. -/
private theorem getElem?_placeAll (before : Nat) (ns : List BareNode) (i : Nat) :
    (placeAll before ns)[i]? = ns[i]?.map (place ((ns.take i).foldl limitAfter before)) := by
  induction ns generalizing before i with
  | nil => simp [placeAll]
  | cons n ns ih =>
    cases i with
    | zero => simp [placeAll]
    | succ i => simp [placeAll, ih]

theorem rel_at?_place (path : List Nat) (n : BareNode) (before : Nat) :
    Option.Rel Node.Copies ((n.place before).at? path) (n.at? path) := by
  induction path generalizing n before with
  | nil => exact .some (n.copies_place before)
  | cons i path ih =>
    rw [Node.at?, at?, children_place, getElem?_placeAll]
    cases n.children[i]? with
    | none => exact .none
    | some child => exact ih child _

private theorem height_eq (n : BareNode) : n.height = height.heightAll n.children + 1 := by
  cases n
  rfl

private theorem height_le_heightAll {n : BareNode} {ns : List BareNode} (h : n ∈ ns) :
    n.height ≤ height.heightAll ns := by
  induction ns with
  | nil => cases h
  | cons m ns ih =>
    rw [height.heightAll]
    rcases List.mem_cons.1 h with rfl | h
    · exact Nat.le_max_left _ _
    · exact Nat.le_trans (ih h) (Nat.le_max_right _ _)

private theorem exists_heightAll_eq {ns : List BareNode} (h : ns ≠ []) : ∃ n ∈ ns, height.heightAll ns = n.height := by
  induction ns with
  | nil => exact absurd rfl h
  | cons n ns ih =>
    rw [height.heightAll]
    rcases Nat.le_total (height.heightAll ns) n.height with hle | hle
    · exact ⟨n, List.mem_cons_self, Nat.max_eq_left hle⟩
    · cases ns with
      | nil => exact ⟨n, List.mem_cons_self, Nat.max_eq_left (Nat.zero_le _)⟩
      | cons next ns =>
        obtain ⟨m, hm, heq⟩ := ih (by simp)
        exact ⟨m, List.mem_cons_of_mem _ hm, (Nat.max_eq_right hle).trans heq⟩

/-- No path has as many steps as the tree has levels. -/
private theorem length_lt_height {path : List Nat} {n m : BareNode} (h : n.at? path = some m) :
    path.length < n.height := by
  induction path generalizing n with
  | nil =>
    rw [height_eq]
    exact Nat.succ_pos _
  | cons i path ih =>
    obtain ⟨child, hchild, hm⟩ := Option.bind_eq_some_iff.1 h
    have hle := height_le_heightAll (List.mem_of_getElem? hchild)
    have hlt := ih hm
    rw [height_eq, List.length_cons]
    omega

private theorem exists_at?_deepest (n : BareNode) : ∃ path m, path.length + 1 = n.height ∧ n.at? path = some m := by
  induction n using BareNode.induction with
  | h label children ih =>
    by_cases hnil : children = []
    · exact ⟨[], mk label children, by rw [hnil]; rfl, rfl⟩
    · obtain ⟨child, hchild, heq⟩ := exists_heightAll_eq hnil
      obtain ⟨path, m, hlength, hm⟩ := ih child hchild
      obtain ⟨i, hi⟩ := List.getElem?_of_mem hchild
      refine ⟨i :: path, m, ?_, Option.bind_eq_some_iff.2 ⟨child, hi, hm⟩⟩
      rw [height, List.length_cons]
      omega

/-- A tree has more levels than `k` if a path in it has as many steps as that. -/
theorem lt_height_iff (n : BareNode) (k : Nat) :
    k < n.height ↔ ∃ path m, k ≤ path.length ∧ n.at? path = some m := by
  constructor
  · intro h
    obtain ⟨path, m, hlength, hm⟩ := n.exists_at?_deepest
    exact ⟨path, m, by omega, hm⟩
  · rintro ⟨path, m, hlength, hm⟩
    exact Nat.lt_of_le_of_lt hlength (length_lt_height hm)

/-! ### Full spans -/

/-- The limit that nodes placed one behind the other leave is where the last one stops that is no comment. -/
private theorem foldl_limitAfter (before : Nat) (ns : List BareNode) :
    ns.foldl limitAfter before =
      ((placeAll before ns).reverse.find? (·.kind ≠ .comment)).elim before (·.span.stop) := by
  induction ns generalizing before with
  | nil => rfl
  | cons n ns ih =>
    rw [List.foldl_cons, ih, placeAll, List.reverse_cons, List.find?_append]
    cases (placeAll (limitAfter before n) ns).reverse.find? (·.kind ≠ .comment) with
    | some last => rfl
    | none =>
      unfold limitAfter
      by_cases hk : n.label.kind = .comment <;> simp [hk]

private theorem take_placeAll (before : Nat) (ns : List BareNode) (i : Nat) :
    (placeAll before ns).take i = placeAll before (ns.take i) := by
  induction ns generalizing before i with
  | nil => simp [placeAll]
  | cons n ns ih =>
    cases i with
    | zero => simp [placeAll]
    | succ i => simp [placeAll, ih]

theorem start_fullSpan_of_getElem? {n : BareNode} {before i : Nat} {c : Node}
    (h : (n.place before).children[i]? = some c) :
    c.fullSpan.start = min c.span.start ((n.place before).limitBefore i) := by
  rw [Node.limitBefore, children_place, take_placeAll, ← foldl_limitAfter]
  rw [children_place, getElem?_placeAll, Option.map_eq_some_iff] at h
  obtain ⟨child, -, rfl⟩ := h
  rw [start_fullSpan_place, span_place, Nat.min_comm]

/-- Building a bare tree fails if a node has `maxLevels` levels above it, and for no other reason. Otherwise it gives
what the recursion `place` gives: a copy of the bare tree, node for node, whose full span starts at the start of the
text. The full span of every other node starts where the node does or already where the last sibling in front of it
stops that is no comment, and if there is none, where the full span of the parent starts. -/
theorem build_copies (root : BareNode) :
    (root.build = .error (.tooDeep maxLevels) ↔ ∃ path m, maxLevels ≤ path.length ∧ root.at? path = some m) ∧
    (root.build = .error (.tooDeep maxLevels) ∨ ∃ n, root.build = .ok n ∧ n = root.place 0 ∧
      (∀ path, Option.Rel Node.Copies (n.at? path) (root.at? path)) ∧
      n.fullSpan.start = 0 ∧
      ∀ m ∈ n.nodes, ∀ i c, m.children[i]? = some c → c.fullSpan.start = min c.span.start (m.limitBefore i)) := by
  rw [build_eq, ← lt_height_iff]
  by_cases hdeep : maxLevels < root.height
  · rw [if_pos hdeep]
    exact ⟨iff_of_true rfl hdeep, .inl rfl⟩
  · rw [if_neg hdeep]
    refine ⟨iff_of_false (by simp) hdeep, .inr ⟨_, rfl, rfl, fun path => rel_at?_place path root 0,
      start_fullSpan_place_zero root, ?_⟩⟩
    intro m hm i c hc
    obtain ⟨n, limit, rfl⟩ := exists_place_of_mem hm
    exact start_fullSpan_of_getElem? hc

end BareNode

end ScriptTidy
