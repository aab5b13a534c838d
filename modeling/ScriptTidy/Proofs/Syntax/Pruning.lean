import Mathlib.Data.List.Find
import ScriptTidy.Proofs.Syntax.Nesting

/-!
# Trees without some of their nodes

`Node.prune` takes nodes out of a tree, each with all that is in it. Which children a node loses may depend on the
node's parent, so that the choice is made for a visit of a walk. A walk through the pruned tree meets the pruned nodes
of those visits whose nodes stay (`exists_visit_of_prune`).
-/

namespace ScriptTidy

namespace Node

/-- The tree without the children that are dropped, when its root has the given parent. -/
def prune (drops : Visit → Node → Bool) (parent : Option Node) : Node → Node
  | mk label children => mk label (pruneAll (drops ⟨mk label children, parent⟩) (some (mk label children)) children)
where
  pruneAll (dropped : Node → Bool) (parent : Option Node) : List Node → List Node
    | [] => []
    | n :: ns =>
      if dropped n then pruneAll dropped parent ns else n.prune drops parent :: pruneAll dropped parent ns

variable {drops : Visit → Node → Bool} {parent : Option Node}

private theorem pruneAll_eq (dropped : Node → Bool) (parent : Option Node) (ns : List Node) :
    prune.pruneAll drops dropped parent ns = (ns.filter fun n => !dropped n).map (prune drops parent) := by
  induction ns with
  | nil => rfl
  | cons n ns ih =>
    rw [prune.pruneAll, ih]
    cases hn : dropped n <;> simp [hn]

theorem children_prune (drops : Visit → Node → Bool) (parent : Option Node) (n : Node) :
    (n.prune drops parent).children = (n.children.filter fun c => !drops ⟨n, parent⟩ c).map (prune drops (some n)) := by
  cases n with
  | mk label children =>
    rw [prune, pruneAll_eq]
    rfl

@[simp] theorem label_prune (drops : Visit → Node → Bool) (parent : Option Node) (n : Node) :
    (n.prune drops parent).label = n.label := by
  cases n
  rfl

@[simp] theorem kind_prune (n : Node) : (n.prune drops parent).kind = n.kind := by simp [kind]

@[simp] theorem field_prune (n : Node) : (n.prune drops parent).field = n.field := by simp [field]

@[simp] theorem named_prune (n : Node) : (n.prune drops parent).named = n.named := by simp [named]

@[simp] theorem span_prune (n : Node) : (n.prune drops parent).span = n.span := by simp [span]

@[simp] theorem fullSpan_prune (n : Node) : (n.prune drops parent).fullSpan = n.fullSpan := by simp [fullSpan]

@[simp] theorem text_prune (n : Node) (source : String) : (n.prune drops parent).text source = n.text source := by
  simp [text]

@[simp] theorem isProper_prune (n : Node) : (n.prune drops parent).isProper = n.isProper := by simp [isProper]

theorem mem_children_prune {n c : Node} : c ∈ (n.prune drops parent).children ↔
    ∃ d ∈ n.children, drops ⟨n, parent⟩ d = false ∧ c = d.prune drops (some n) := by
  simp only [children_prune, List.mem_map, List.mem_filter, Bool.not_eq_true']
  constructor
  · rintro ⟨d, ⟨hd, hkept⟩, rfl⟩
    exact ⟨d, hd, hkept, rfl⟩
  · rintro ⟨d, hd, hkept, rfl⟩
    exact ⟨d, ⟨hd, hkept⟩, rfl⟩

/-- If a test of labels fails for what is dropped, the first child that passes it is the pruned first child. -/
theorem find?_children_prune {n : Node} {p : Node → Bool} (hp : ∀ c parent, p (c.prune drops parent) = p c)
    (hdropped : ∀ c ∈ n.children, drops ⟨n, parent⟩ c = true → p c = false) :
    (n.prune drops parent).children.find? p = (n.children.find? p).map (prune drops (some n)) := by
  rw [children_prune, List.find?_map]
  have hcongr : p ∘ prune drops (some n) = p := funext fun c => hp c _
  rw [hcongr, List.find?_filter]
  refine congrArg (Option.map _) ?_
  refine List.find?_congr fun c hc => ?_
  cases hdrop : drops ⟨n, parent⟩ c with
  | true => simp [hdropped c hc hdrop]
  | false => simp

/-- A node of the pruned tree is the pruned node of a visit. -/
private theorem exists_visit_of_mem {n m : Node} (hm : m ∈ (n.prune drops parent).nodes) :
    ∃ v ∈ n.visits parent, m = v.node.prune drops v.parent := by
  induction n using Node.induction generalizing parent with
  | h label children ih =>
    rw [visits_eq]
    rcases mem_nodes.1 hm with rfl | ⟨c, hc, hmc⟩
    · exact ⟨_, List.mem_cons_self, rfl⟩
    · obtain ⟨d, hd, -, rfl⟩ := mem_children_prune.1 hc
      obtain ⟨v, hv, rfl⟩ := ih d hd hmc
      exact ⟨v, List.mem_cons_of_mem _ (List.mem_flatMap.2 ⟨d, hd, hv⟩), rfl⟩

/-- A visit of the pruned tree with a parent goes back to a child in the whole tree that is not dropped. -/
theorem exists_visit_of_prune {n p' : Node} {v' : Visit} (hv' : v' ∈ (n.prune drops none).walk)
    (hp' : v'.parent = some p') : ∃ v ∈ n.walk, p' = v.node.prune drops v.parent ∧
      ∃ d ∈ v.node.children, drops v d = false ∧ v'.node = d.prune drops (some v.node) := by
  obtain ⟨hp, hchild⟩ : p' ∈ (n.prune drops none).nodes ∧ v'.node ∈ p'.children := by
    rcases mem_walk.1 hv' with rfl | ⟨p, hp, hparent, hchild⟩
    · cases hp'
    · obtain rfl : p = p' := Option.some.inj (hparent.symm.trans hp')
      exact ⟨hp, hchild⟩
  obtain ⟨v, hv, rfl⟩ := exists_visit_of_mem hp
  rw [← walk_eq_visits] at hv
  exact ⟨v, hv, rfl, mem_children_prune.1 hchild⟩

/-- A visit is followed by one of each child. -/
theorem child_mem_walk {n c : Node} {v : Visit} (hv : v ∈ n.walk) (hc : c ∈ v.node.children) :
    ⟨c, some v.node⟩ ∈ n.walk := by
  refine mem_walk.2 (.inr ⟨v.node, ?_, rfl, hc⟩)
  exact List.mem_map_of_mem hv

theorem IsNested.prune {n : Node} (h : n.IsNested) : (n.prune drops none).IsNested := by
  intro m hm
  obtain ⟨v, hv, rfl⟩ := exists_visit_of_mem hm
  rw [← walk_eq_visits] at hv
  have hnode : v.node.IsNested := h.of_mem (List.mem_map_of_mem hv)
  refine ⟨by simpa using hnode.start_le_stop, fun c hc => ?_, ?_⟩
  · obtain ⟨d, hd, -, rfl⟩ := mem_children_prune.1 hc
    simpa using hnode.covers_child hd
  · rw [children_prune, List.pairwise_map]
    simpa using hnode.pairwise_children.filter _

end Node

end ScriptTidy
