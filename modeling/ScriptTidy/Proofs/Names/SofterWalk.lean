import ScriptTidy.Proofs.Names.SofterNames
import ScriptTidy.Proofs.Names.SofterTree

/-!
# A walk through the softer tree

Only the keywords of the chosen declarations are no softened nodes of the tree. So a walk through the softer tree meets
the softened nodes of a walk through the tree, under their softened parents, and besides these the keywords
(`visit_of_walk_soften`, `soften_mem_walk`). No node moves (`nested_soften`), and so the outlines of the two trees tell
what names mean afterwards (`softens_file`).
-/

namespace ScriptTidy

namespace Node

@[simp] theorem span_asLet (n : Node) : n.asLet.span = n.span := by
  cases n; rfl

/-- The word `var`, as it stands in front of a declaration. -/
def IsKeyword (n : Node) : Prop := n.kind = .varKeyword ∧ n.children = []

/-- A visit in the softer tree. -/
def Visit.soften (chosen : Node → Bool) (v : Visit) : Visit := ⟨v.node.soften chosen, v.parent.map (Node.soften chosen)⟩

/-- No child moves when a node becomes softer. -/
private theorem map_span_children_soften (chosen : Node → Bool) (n : Node) :
    (n.soften chosen).children.map span = n.children.map span := by
  by_cases h : chosen n = true
  · rw [children_soften_of_chosen h]
    cases n.children <;> simp
  · rw [children_soften_of_not h]
    simp

end Node

namespace Rewording

variable {root : Node} {chosen : Node → Bool} {source source' : String} {soft : Span → Prop} {n m c : Node}
  (S : Rewording root chosen source source' soft)
include S

/-- A child of a softened node is a softened child, or the keyword. -/
private theorem child_of_soften {c' : Node} (hn : n ∈ root.nodes) (hc' : c' ∈ (n.soften chosen).children) :
    (∃ c ∈ n.children, c' = c.soften chosen) ∨
      ∃ w ∈ n.children, w.IsKeyword ∧ c' = (w.soften chosen).asLet := by
  by_cases h : chosen n = true
  · obtain ⟨w, rest, hchildren, hkind, hleaf, -⟩ := S.keyword n hn h
    rw [Node.children_soften_of_chosen h, hchildren, List.map_cons, List.modifyHead_cons] at hc'
    rw [hchildren]
    rcases List.mem_cons.1 hc' with rfl | hc'
    · exact .inr ⟨w, List.mem_cons_self, ⟨hkind, hleaf⟩, rfl⟩
    · obtain ⟨c, hc, rfl⟩ := List.mem_map.1 hc'
      exact .inl ⟨c, List.mem_cons_of_mem w hc, rfl⟩
  · rw [Node.children_soften_of_not h] at hc'
    obtain ⟨c, hc, rfl⟩ := List.mem_map.1 hc'
    exact .inl ⟨c, hc, rfl⟩

/-- A child that is no keyword is softened. -/
private theorem soften_mem_children (hn : n ∈ root.nodes) (hc : c ∈ n.children) (hword : ¬ c.IsKeyword) :
    c.soften chosen ∈ (n.soften chosen).children := by
  by_cases h : chosen n = true
  · obtain ⟨w, rest, hchildren, hkind, hleaf, -⟩ := S.keyword n hn h
    rw [hchildren] at hc
    have hrest : c ∈ rest := (List.mem_cons.1 hc).resolve_left fun heq => hword (heq ▸ ⟨hkind, hleaf⟩)
    rw [Node.children_soften_of_chosen h, hchildren, List.map_cons, List.modifyHead_cons]
    exact List.mem_cons_of_mem _ (List.mem_map_of_mem hrest)
  · rw [Node.children_soften_of_not h]
    exact List.mem_map_of_mem hc

/-- A keyword stays a leaf. -/
private theorem children_keyword (hword : c.IsKeyword) : (c.soften chosen).asLet.children = [] := by
  have hnot : ¬ chosen c = true := S.not_chosen_of_kind (by rw [hword.1]; decide)
  rw [Node.children_asLet, Node.children_soften_of_not hnot, hword.2, List.map_nil]

/-- A node of the softer tree is a softened node, or a keyword. -/
private theorem node_of_soften {m' : Node} (n : Node) : n ∈ root.nodes → m' ∈ (n.soften chosen).nodes →
    (∃ m ∈ n.nodes, m' = m.soften chosen) ∨ ∃ w ∈ n.nodes, w.IsKeyword ∧ m' = (w.soften chosen).asLet := by
  induction n using Node.induction with
  | h label children ih =>
    intro hn hm'
    rcases Node.mem_nodes.1 hm' with rfl | ⟨c', hc', hm'⟩
    · exact .inl ⟨_, Node.mem_nodes_self _, rfl⟩
    · rcases S.child_of_soften hn hc' with ⟨c, hc, rfl⟩ | ⟨w, hw, hword, rfl⟩
      · have hin : ∀ {m : Node}, m ∈ c.nodes → m ∈ (Node.mk label children).nodes := Node.mem_nodes_of_child hc
        rcases ih c hc (Node.mem_nodes_trans (Node.child_mem_nodes hc) hn) hm' with ⟨m, hm, heq⟩ | ⟨w, hw, hboth⟩
        · exact .inl ⟨m, hin hm, heq⟩
        · exact .inr ⟨w, hin hw, hboth⟩
      · have heq := Node.eq_of_mem_nodes_leaf hm' (S.children_keyword hword)
        exact .inr ⟨w, Node.child_mem_nodes hw, hword, heq⟩

/-- A node that is no keyword is softened. -/
private theorem soften_mem_nodes (n : Node) : n ∈ root.nodes → m ∈ n.nodes → ¬ m.IsKeyword →
    m.soften chosen ∈ (n.soften chosen).nodes := by
  induction n using Node.induction with
  | h label children ih =>
    intro hn hm hword
    rcases Node.mem_nodes.1 hm with rfl | ⟨c, hc, hm⟩
    · exact Node.mem_nodes_self _
    · -- a keyword in between would be a leaf, and so the node itself
      have hchild : ¬ c.IsKeyword := fun h => hword (Node.eq_of_mem_nodes_leaf hm h.2 ▸ h)
      have hmem := ih c hc (Node.mem_nodes_trans (Node.child_mem_nodes hc) hn) hm hword
      exact Node.mem_nodes_of_child (S.soften_mem_children hn hc hchild) hmem

theorem soften_mem_declarable (hn : n ∈ root.nodes) (hm : m ∈ n.declarable) :
    m.soften chosen ∈ (n.soften chosen).declarable := by
  obtain ⟨hmem, hkind⟩ := Node.mem_declarable.1 hm
  have hword : ¬ m.IsKeyword := by
    intro h
    rw [h.1] at hkind
    simp at hkind
  refine Node.mem_declarable.2 ⟨S.soften_mem_nodes n hn hmem hword, ?_⟩
  rw [S.kind_eq_iff _ (by decide), S.kind_eq_iff _ (by decide)]
  exact hkind

/-! ### Visits -/

/-- A visit of the softer tree is a softened visit, or meets a keyword. -/
theorem visit_of_walk_soften {v' : Node.Visit} (hv' : v' ∈ (root.soften chosen).walk) :
    (∃ v ∈ root.walk, v' = v.soften chosen) ∨ v'.node.kind = .other "let" := by
  rcases Node.mem_walk.1 hv' with rfl | ⟨p', hp', hparent, hchild⟩
  · exact .inl ⟨⟨root, none⟩, Node.mem_walk.2 (.inl rfl), rfl⟩
  rcases S.node_of_soften root (Node.mem_nodes_self root) hp' with ⟨p, hp, rfl⟩ | ⟨w, hw, hword, rfl⟩
  · rcases S.child_of_soften hp hchild with ⟨c, hc, hnode⟩ | ⟨w, hw, hword, hnode⟩
    · refine .inl ⟨⟨c, some p⟩, Node.mem_walk.2 (.inr ⟨p, hp, rfl, hc⟩), ?_⟩
      cases v'
      cases hparent
      cases hnode
      rfl
    · exact .inr (by rw [hnode, Node.kind_asLet])
  · rw [S.children_keyword hword] at hchild
    cases hchild

/-- The softer tree has the softened visit of every node that is no keyword. -/
theorem soften_mem_walk {v : Node.Visit} (hv : v ∈ root.walk) (hword : ¬ v.node.IsKeyword) :
    v.soften chosen ∈ (root.soften chosen).walk := by
  rcases Node.mem_walk.1 hv with rfl | ⟨p, hp, hparent, hchild⟩
  · exact Node.mem_walk.2 (.inl rfl)
  · have hparentword : ¬ p.IsKeyword := by
      intro h
      rw [h.2] at hchild
      cases hchild
    have hmem := S.soften_mem_nodes root (Node.mem_nodes_self root) hp hparentword
    refine Node.mem_walk.2 (.inr ⟨p.soften chosen, hmem, ?_, S.soften_mem_children hp hchild hword⟩)
    rw [Node.Visit.soften, hparent]
    rfl

/-- The softer tree is nested as the tree is. -/
theorem nested_soften : (root.soften chosen).IsNested := by
  intro m' hm'
  rcases S.node_of_soften root (Node.mem_nodes_self root) hm' with ⟨m, hm, rfl⟩ | ⟨w, hw, hword, rfl⟩
  · have hnested := S.nested.of_mem hm
    have hspans := Node.map_span_children_soften chosen m
    refine ⟨by simpa using hnested.start_le_stop, fun c' hc' => ?_, ?_⟩
    · have hspan : c'.span ∈ m.children.map Node.span := hspans ▸ List.mem_map_of_mem hc'
      obtain ⟨c, hc, heq⟩ := List.mem_map.1 hspan
      rw [Node.span_soften, ← heq]
      exact hnested.covers_child hc
    · have hpair : (m.children.map Node.span).Pairwise fun a b => a.stop ≤ b.start :=
        List.pairwise_map.2 hnested.pairwise_children
      rw [← hspans] at hpair
      exact List.pairwise_map.1 hpair
  · have hstart := (S.nested.of_mem hw).start_le_stop
    rw [S.children_keyword hword]
    exact ⟨by simpa using hstart, by simp, .nil⟩

omit S in
/-- The file of the softer tree has the softer outline. -/
theorem softens_file {t : Tree} (S : Rewording t.root chosen t.source source' soft) :
    t.Softens soft ⟨t.root.soften chosen, source', t.dialect⟩ where
  nested := S.nested
  nested' := S.nested_soften
  outline := by
    rw [Tree.outline, Tree.outline, Node.fullSpan_soften]
    exact .scope .file t.root.fullSpan (S.softens_statements fun _ _ => rfl) .nil

end Rewording

end ScriptTidy
