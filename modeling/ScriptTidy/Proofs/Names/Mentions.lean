import ScriptTidy.Names.Usage
import ScriptTidy.Names.Outline
import ScriptTidy.Proofs.Syntax.Walk

/-!
# The names that an outline mentions

An outline without its regions is a list of mentions: names that are declared and names that are referred to, each
with its place. Every mention of a tree's outline comes from a node of the tree, with the text of the node as the name
and its span as the place (`mentions_outline`). References come from identifiers only, so that the list of uses has
them all; a declared name comes from whatever the grammar puts into the place of a name.
-/

namespace ScriptTidy

/-- A name that an outline notes, with its place. -/
inductive Mention where
  | declares (kind : BindingKind) (name : String) (site : Site)
  | refers (name : String) (site : Site)

/-- The mentions of an outline in source order. -/
def Outline.mentions : Outline → List Mention
  | declare kind name site => [.declares kind name site]
  | refer name site => [.refers name site]
  | scope _ _ parts => mentionsAll parts
  | exported parts => mentionsAll parts
where
  mentionsAll : List Outline → List Mention
    | [] => []
    | o :: os => o.mentions ++ mentionsAll os

namespace Outline

open mentions

@[simp] theorem mentionsAll_nil : mentionsAll [] = [] := rfl

@[simp] theorem mentionsAll_append (os ps : List Outline) :
    mentionsAll (os ++ ps) = mentionsAll os ++ mentionsAll ps := by
  induction os with
  | nil => rfl
  | cons o os ih => simp [mentionsAll, ih]

@[simp] theorem mentionsAll_flatMap {α : Type} (xs : List α) (f : α → List Outline) :
    mentionsAll (xs.flatMap f) = xs.flatMap fun x => mentionsAll (f x) := by
  induction xs with
  | nil => rfl
  | cons x xs ih => simp [List.flatMap_cons, ih]

@[simp] theorem mentionsAll_stamp (r : Reading) (parts : List Outline) :
    mentionsAll (r.stamp parts) = mentionsAll parts := by
  unfold Reading.stamp
  split <;> simp [mentionsAll, mentions]

@[simp] theorem mentionsAll_enclose (r : Reading) (n : Node) (parts : List Outline) :
    mentionsAll (r.enclose n parts) = mentionsAll parts := by
  unfold Reading.enclose
  split <;> simp [mentionsAll, mentions]

end Outline

/-- A name stands somewhere in the file exactly when it is the text of an identifier. -/
theorem Usage.contains_ofTree_iff {t : Tree} {name : String} : (Usage.ofTree t).contains name = true ↔
    ∃ n ∈ t.root.nodes, n.kind.isIdentifier = true ∧ n.text t.source = name := by
  simp only [Usage.contains, Usage.ofTree, Usage.ofOccurrences, List.any_eq_true, List.mem_filterMap,
    Usage.occurrence?, Node.nodes, List.mem_map, decide_eq_true_eq]
  constructor
  · rintro ⟨o, ⟨v, hv, ho⟩, rfl⟩
    split at ho
    · rename_i hk
      obtain rfl := Option.some.inj ho
      exact ⟨v.node, ⟨v, hv, rfl⟩, hk, rfl⟩
    · cases ho
  · rintro ⟨n, ⟨v, hv, rfl⟩, hk, rfl⟩
    exact ⟨⟨v.node.text t.source, v.node.span, .ofVisit v⟩, ⟨v, hv, by rw [if_pos hk]⟩, rfl⟩

namespace Mention

/-- The mention comes from a node of the tree `n`, and from an identifier if it refers. -/
def IsFoundIn (source : String) (n : Node) : Mention → Prop
  | declares _ name site => ∃ m ∈ n.nodes, m.span = site.span ∧ m.text source = name
  | refers name site => ∃ m ∈ n.nodes, m.kind.isIdentifier = true ∧ m.span = site.span ∧ m.text source = name

private theorem IsFoundIn.of_child {source : String} {n c : Node} {m : Mention} (hc : c ∈ n.children)
    (h : m.IsFoundIn source c) : m.IsFoundIn source n := by
  cases m with
  | declares kind name site =>
    obtain ⟨m, hm, h⟩ := h
    exact ⟨m, Node.mem_nodes_of_child hc hm, h⟩
  | refers name site =>
    obtain ⟨m, hm, h⟩ := h
    exact ⟨m, Node.mem_nodes_of_child hc hm, h⟩

end Mention

/-- All that the outlines mention comes from the tree `n`. -/
private def FoundAll (source : String) (n : Node) (os : List Outline) : Prop :=
  ∀ m ∈ Outline.mentions.mentionsAll os, m.IsFoundIn source n

namespace FoundAll

private theorem nil (source : String) (n : Node) : FoundAll source n [] := by
  intro m hm
  cases hm

private theorem append {source : String} {n : Node} {os ps : List Outline} (ho : FoundAll source n os)
    (hp : FoundAll source n ps) : FoundAll source n (os ++ ps) := by
  intro m hm
  rw [Outline.mentionsAll_append] at hm
  rcases List.mem_append.1 hm with hm | hm
  · exact ho m hm
  · exact hp m hm

private theorem flatMap {source : String} {n : Node} {α : Type} {xs : List α} {f : α → List Outline}
    (h : ∀ x ∈ xs, FoundAll source n (f x)) : FoundAll source n (xs.flatMap f) := by
  induction xs with
  | nil => exact nil source n
  | cons x xs ih =>
    rw [List.flatMap_cons]
    exact (h x (by simp)).append (ih fun y hy => h y (by simp [hy]))

private theorem declareNode {source : String} {n c : Node} (hc : c ∈ n.nodes) (kind : BindingKind) (form : Form) :
    FoundAll source n (Outline.declareNode source kind form c) := by
  unfold Outline.declareNode
  split
  · exact nil source n
  · intro m hm
    simp [Outline.mentions.mentionsAll, Outline.mentions] at hm
    subst hm
    exact ⟨c, hc, rfl, rfl⟩

private theorem referNode {source : String} {n c : Node} (hc : c ∈ n.nodes) (hk : c.kind.isIdentifier = true)
    (form : Form) : FoundAll source n (Outline.referNode source form c) := by
  unfold Outline.referNode
  split
  · exact nil source n
  · intro m hm
    simp [Outline.mentions.mentionsAll, Outline.mentions] at hm
    subst hm
    exact ⟨c, hc, hk, rfl, rfl⟩

private theorem childByField {source : String} {n : Node} (field : Field) (kind : BindingKind) (form : Form) :
    FoundAll source n (((n.childByField? field).map (Outline.declareNode source kind form)).getD []) := by
  cases h : n.childByField? field with
  | none => exact nil source n
  | some c => exact declareNode (Node.child_mem_nodes (Node.mem_children_of_field h)) kind form

end FoundAll

/-! ### What a node mentions by itself -/

namespace Reading

theorem mem_children_of_imported {specifier c : Node} (h : importedName? specifier = some c) :
    c ∈ specifier.children := by
  unfold importedName? at h
  split at h
  · rcases Option.or_eq_some_iff.1 (Option.filter_eq_some_iff.1 h).1 with h | ⟨-, h⟩
    · exact Node.mem_children_of_field h
    · exact Node.mem_children_of_field h
  · cases h

theorem importedNames_subset {n c : Node} (h : c ∈ importedNames n) : c ∈ n.nodes := by
  simp only [importedNames, List.mem_flatMap] at h
  obtain ⟨clause, hclause, hc⟩ := h
  refine Node.mem_nodes_of_child (Node.mem_children_of_proper hclause) ?_
  split at hc
  · obtain ⟨part, hpart, hc⟩ := List.mem_flatMap.1 hc
    refine Node.mem_nodes_of_child (Node.mem_children_of_proper hpart) ?_
    unfold importedBy at hc
    split at hc
    · simp only [List.mem_singleton] at hc
      exact hc ▸ Node.mem_nodes_self part
    · exact Node.child_mem_nodes (Node.mem_children_of_kind (Option.mem_toList.1 hc))
    · obtain ⟨specifier, hspec, hc⟩ := List.mem_filterMap.1 hc
      refine Node.mem_nodes_of_child (Node.mem_children_of_proper hspec) ?_
      exact Node.child_mem_nodes (mem_children_of_imported hc)
    · cases hc
  · exact Node.child_mem_nodes (Node.mem_children_of_kind (Option.mem_toList.1 hc))
  · cases hc

private theorem found_preamble (source : String) (r : Reading) (n : Node) :
    FoundAll source n (r.preamble source n) := by
  unfold preamble
  split
  · exact .childByField _ _ _
  · exact .childByField _ _ _
  · exact .nil source n

private theorem found_exportedBy {source : String} {n specifier : Node} (h : specifier ∈ n.children) :
    FoundAll source n (exportedBy source specifier) := by
  unfold exportedBy
  split
  · rename_i name hname
    split
    · rename_i hk
      have hmem : name ∈ n.nodes :=
        Node.mem_nodes_of_child h (Node.child_mem_nodes (Node.mem_children_of_field hname))
      exact .referNode hmem (by rw [hk]; rfl) _
    · exact .nil source n
  · exact .nil source n

/-- A kind that is a name in the place of code is an identifier. -/
theorem isIdentifier_of_construct {kind : Kind} {form : Form} (h : kind.construct = .name form) :
    kind.isIdentifier = true := by
  cases kind <;> first | rfl | cases h

private theorem found_opening {source : String} {r : Reading} {n : Node}
    (htag : r = tag → n.kind.isIdentifier = true) : FoundAll source n (r.opening source n) := by
  have hself := Node.mem_nodes_self n
  unfold opening
  split
  · split
    · rename_i form hform
      exact .referNode hself (isIdentifier_of_construct hform) form
    · exact .childByField _ _ _
    · exact .childByField _ _ _
    · exact .flatMap fun c hc => .declareNode (importedNames_subset hc) _ _
    · exact .nil source n
  · split
    · exact .declareNode hself _ _
    · exact .declareNode hself _ _
    · exact .nil source n
  · exact .flatMap fun c hc => found_exportedBy (Node.mem_children_of_proper hc)
  · split
    · exact .nil source n
    · exact .referNode hself (htag rfl) _
  · exact .declareNode hself _ _
  all_goals exact .nil source n

/-! ### How children come to be tags -/

private theorem settle_eq_tag {r : Reading} {kind : Kind} (h : r.settle kind = tag) : r = tag := by
  cases r with
  | parameter =>
    simp only [settle] at h
    repeat' split at h
    all_goals cases h
  | pattern k =>
    simp only [settle] at h
    split at h <;> cases h
  | exportedDeclaration => cases h
  | _ => exact h

/-- Only an identifier is read as the name of a markup element. -/
private theorem isIdentifier_of_role {source : String} {r : Reading} {n c : Node}
    (h : r.role source n c = some tag) : c.kind.isIdentifier = true := by
  cases r with
  | code =>
    by_cases hmarkup : n.kind.construct = .markup
    · simp only [role, codeRole, hmarkup, Option.some.injEq] at h
      split at h
      · rename_i hc
        rw [hc.2]
        rfl
      · cases h
    · simp only [role, codeRole, functionRole, exportRole] at h
      cases hk : loopKind? source n <;> simp only [hk] at h <;> repeat' split at h
      all_goals first | contradiction | cases h
  | pattern k =>
    simp only [role, patternRole] at h
    repeat' split at h
    all_goals cases h
  | _ =>
    simp only [role] at h
    repeat' split at h
    all_goals cases h

end Reading

/-! ### What a whole tree mentions -/

private theorem found_outlineAll {source : String} {n : Node} {role : Node → Option Reading} {cs : List Node}
    (h : ∀ c ∈ cs, ∀ r, role c = some r → FoundAll source n (c.outline source r)) :
    FoundAll source n (Node.outline.outlineAll source role cs) := by
  induction cs with
  | nil => exact .nil source n
  | cons c cs ih =>
    have htail := ih fun d hd => h d (by simp [hd])
    unfold Node.outline.outlineAll
    split
    · rename_i r hr
      exact (h c (by simp) r hr).append htail
    · exact htail

private theorem found_outlineFirst {source : String} {n : Node} {cs : List Node}
    (h : ∀ c ∈ cs, FoundAll source n (c.outline source .code)) :
    FoundAll source n (Node.outline.outlineFirst source cs) := by
  induction cs with
  | nil => exact .nil source n
  | cons c cs ih =>
    unfold Node.outline.outlineFirst
    split
    · exact h c (by simp)
    · exact ih fun d hd => h d (by simp [hd])

/-- All mentions of a node's outline come from nodes of its tree. -/
private theorem found_outline (source : String) (n : Node) :
    ∀ r : Reading, (r = .tag → n.kind.isIdentifier = true) → FoundAll source n (n.outline source r) := by
  induction n using Node.induction with
  | h label children ih =>
    intro reading htag
    -- what is found in a child is found in the node
    have hchild : ∀ c ∈ children, ∀ r, (r = .tag → c.kind.isIdentifier = true) →
        FoundAll source (.mk label children) (c.outline source r) := fun c hc r hr m hm =>
      .of_child hc (ih c hc r hr m hm)
    have hopening : FoundAll source (.mk label children)
        ((reading.settle label.kind).opening source (.mk label children)) :=
      Reading.found_opening fun h => htag (Reading.settle_eq_tag h)
    have hparts : FoundAll source (.mk label children)
        (Node.outline.outlineAll source ((reading.settle label.kind).role source (.mk label children)) children) :=
      found_outlineAll fun c hc r hr => hchild c hc r fun h => Reading.isIdentifier_of_role (h ▸ hr)
    have hname : FoundAll source (.mk label children) (Node.outline.outlineFirst source children) :=
      found_outlineFirst fun c hc => hchild c hc .code nofun
    intro m hm
    unfold Node.outline at hm
    simp only [Outline.mentionsAll_stamp, Outline.mentionsAll_append, Outline.mentionsAll_enclose,
      List.mem_append] at hm
    rcases hm with (hm | hm) | hm | hm
    · exact Reading.found_preamble source _ _ m hm
    · split at hm
      · exact hname m hm
      · cases hm
    · exact hopening m hm
    · exact hparts m hm

/-- Whatever the outline of a tree mentions has the text of a node of the tree for its name, and the span of that node
for its place; for a reference the node is an identifier. -/
theorem mentions_outline {t : Tree} {m : Mention} (h : m ∈ t.outline.mentions) : m.IsFoundIn t.source t.root := by
  have hall : FoundAll t.source t.root (Node.outline.outlineAll t.source (fun _ => some .code) t.root.children) :=
    found_outlineAll fun c hc r hr m hm =>
      .of_child hc (found_outline t.source c r (by rintro rfl; cases hr) m hm)
  exact hall m h

end ScriptTidy
