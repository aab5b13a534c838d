import Mathlib.Tactic.ByContra
import ScriptTidy.Proofs.Edit.Deletions
import ScriptTidy.Proofs.Names.Resolution
import ScriptTidy.Proofs.Rule.Proposal
import ScriptTidy.Proofs.Rule.Removal
import ScriptTidy.Proofs.Syntax.FullSpans

/-!
# Only unused variables are deleted

A deletion that the rule on unused variables proposes is a `Cut`: either a whole statement goes, all of whose
declarators go, or some of the declarators of a declaration go. In a tree that `DeclaresInOrder`, a declaration inside
another one lies inside one of its declarators, which a cut of the outer declaration takes as a whole or not at all.
So any two cuts lie one inside the other or apart (`Cut.laminar`), merging them cannot fail, and a declarator that
stays meets only cuts that lie inside of it (`Cut.inside_of_meets`).
-/

namespace ScriptTidy

namespace Node

/-- A declaration of variables. -/
def IsDeclaration (n : Node) : Prop := n.kind = .lexicalDeclaration ∨ n.kind = .variableDeclaration

instance (n : Node) : Decidable n.IsDeclaration := inferInstanceAs (Decidable (_ ∨ _))

/-- The variables of a declaration, each with its initial value. -/
def declarators (n : Node) : List Node := n.children.filter (·.kind = .variableDeclarator)

/-- An export statement that declares variables. -/
def IsExportedDeclaration (n : Node) : Prop := n.kind = .exportStatement ∧ ∃ c ∈ n.children, c.IsDeclaration

instance (n : Node) : Decidable n.IsExportedDeclaration := inferInstanceAs (Decidable (_ ∧ _))

/-- What the grammars guarantee about declarations of variables: the tree is nested, declarations inside a declaration
stand inside its declarators, blanks and comments in front of them included, and an export statement that declares
variables holds no declaration beside the one it exports. -/
structure DeclaresInOrder (n : Node) : Prop where
  nested : n.IsNested
  comments : n.CommentsAreLeaves
  inside : ∀ D ∈ n.nodes, D.IsDeclaration → ∀ c ∈ D.children, ∀ m ∈ c.nodes,
    m.IsDeclaration ∨ m.IsExportedDeclaration → ∃ d ∈ D.declarators, d.span.covers m.fullSpan = true
  exports : ∀ e ∈ n.nodes, e.kind = .exportStatement → ∀ D ∈ e.children, D.IsDeclaration →
    ∀ m ∈ e.nodes, m.IsDeclaration → D.span.covers m.span = true

instance (n : Node) : Decidable n.DeclaresInOrder :=
  decidable_of_iff (n.IsNested ∧ n.CommentsAreLeaves ∧
    (∀ D ∈ n.nodes, D.IsDeclaration → ∀ c ∈ D.children, ∀ m ∈ c.nodes,
      m.IsDeclaration ∨ m.IsExportedDeclaration → ∃ d ∈ D.declarators, d.span.covers m.fullSpan = true) ∧
    ∀ e ∈ n.nodes, e.kind = .exportStatement → ∀ D ∈ e.children, D.IsDeclaration →
      ∀ m ∈ e.nodes, m.IsDeclaration → D.span.covers m.span = true)
    ⟨fun ⟨h₁, h₂, h₃, h₄⟩ => ⟨h₁, h₂, h₃, h₄⟩, fun ⟨h₁, h₂, h₃, h₄⟩ => ⟨h₁, h₂, h₃, h₄⟩⟩

theorem mem_declarators {n d : Node} : d ∈ n.declarators ↔ d ∈ n.children ∧ d.kind = .variableDeclarator := by
  simp [declarators]

namespace DeclaresInOrder

variable {root : Node}

/-- A declarator with a byte that stands inside a declaration stands inside one of that declaration's declarators. -/
private theorem inside_declarator (h : root.DeclaresInOrder) (hplaced : root.IsPlaced) {D P d : Node}
    (hD : D ∈ root.nodes) (hDk : D.IsDeclaration) (hP : P ∈ root.nodes) (hPk : P.IsDeclaration) (hd : d ∈ P.declarators)
    (hbyte : d.span.start < d.span.stop) (hin : d ∈ D.nodes) : ∃ x ∈ D.declarators, d ∈ x.nodes := by
  obtain ⟨hdP, hdk⟩ := mem_declarators.1 hd
  have hne : d ≠ D := by
    rintro rfl
    rcases hDk with hk | hk <;> rw [hdk] at hk <;> cases hk
  obtain ⟨c, hc, hdc⟩ := (mem_nodes.1 hin).resolve_left hne
  have hnested := h.nested.of_mem hD
  by_cases heq : d = c
  · exact ⟨d, mem_declarators.2 ⟨heq ▸ hc, hdk⟩, mem_nodes_self d⟩
  · -- the declaration that `d` belongs to stands inside of the same child
    have hcroot : c ∈ root.nodes := mem_nodes_trans (child_mem_nodes hc) hD
    have hPc := h.nested.parent_mem_nodes hP hcroot hdP hdc heq hbyte
    obtain ⟨x, hx, hcovers⟩ := h.inside D hD hDk c hc P hPc (.inl hPk)
    refine ⟨x, hx, hnested.inside_child_of_meets hin hne (mem_declarators.1 hx).1 ?_⟩
    have hspan : x.span.covers d.span = true :=
      Span.covers_trans (Span.covers_trans hcovers (hplaced.of_mem hP).covers_span)
        ((h.nested.of_mem hP).covers_child hdP)
    exact (Span.meets_of_covers hspan hbyte).symm

end DeclaresInOrder

end Node

namespace UnusedVariables

variable {f : Facts} {gone : List Nat}

/-! ### Statements and the cuts they call for -/

/-- The statement takes out the variables of declaration `D`: it is the declaration itself or the export statement
around it. -/
structure Statement.Declares (f : Facts) (s : Statement) (D : Node) : Prop where
  outer_mem : s.outer ∈ f.tree.root.nodes
  outer_eq : s.outer = D ∨ s.outer.kind = .exportStatement ∧ D ∈ s.outer.children
  isDeclaration : D.IsDeclaration
  declarators_eq : s.declarators = D.declarators.map (declarator f)

namespace Statement.Declares

variable {s : Statement} {D : Node}

private theorem mem_outer (h : s.Declares f D) : D ∈ s.outer.nodes := by
  rcases h.outer_eq with heq | ⟨-, hD⟩
  · exact heq ▸ Node.mem_nodes_self _
  · exact Node.child_mem_nodes hD

theorem mem_root (h : s.Declares f D) : D ∈ f.tree.root.nodes := Node.mem_nodes_trans h.mem_outer h.outer_mem

theorem outer_kind (h : s.Declares f D) : s.outer.IsDeclaration ∨ s.outer.IsExportedDeclaration := by
  rcases h.outer_eq with heq | ⟨hk, hD⟩
  · exact .inl (heq ▸ h.isDeclaration)
  · exact .inr ⟨hk, D, hD, h.isDeclaration⟩

private theorem outer_not_comment (h : s.Declares f D) : s.outer.kind ≠ .comment := by
  intro hk
  rcases h.outer_kind with (hk' | hk') | ⟨hk', -⟩ <;> rw [hk] at hk' <;> cases hk'

/-- A declarator with a byte inside the statement belongs to its declaration or to one further inside. -/
private theorem mem_declaration (h : s.Declares f D) (horder : f.tree.root.DeclaresInOrder) {P d : Node}
    (hP : P ∈ f.tree.root.nodes) (hPk : P.IsDeclaration) (hd : d ∈ P.declarators)
    (hbyte : d.span.start < d.span.stop) (hin : d ∈ s.outer.nodes) : d ∈ D.nodes := by
  obtain ⟨hdP, hdk⟩ := Node.mem_declarators.1 hd
  rcases h.outer_eq with heq | ⟨hk, hD⟩
  · exact heq ▸ hin
  have hne : d ≠ s.outer := by
    rintro rfl
    rw [hdk] at hk
    cases hk
  have hPouter := horder.nested.parent_mem_nodes hP h.outer_mem hdP hin hne hbyte
  have hcovers : D.span.covers d.span = true :=
    Span.covers_trans (horder.exports _ h.outer_mem hk D hD h.isDeclaration P hPouter hPk)
      ((horder.nested.of_mem hP).covers_child hdP)
  exact (horder.nested.of_mem h.outer_mem).inside_child_of_meets hin hne hD
    (Span.meets_of_covers hcovers hbyte).symm

end Statement.Declares

theorem statement?_eq_some {v : Node.Visit} {s : Statement} : statement? f v = some s ↔
    v.node.IsDeclaration ∧ ∃ p, v.parent = some p ∧ isStatementList p.kind = true ∧
      s = ⟨if p.kind = .exportStatement then p else v.node, v.node.declarators.map (declarator f)⟩ := by
  unfold statement?
  constructor
  · intro h
    split at h
    · rename_i hk
      obtain ⟨p, hp, rfl⟩ := Option.map_eq_some_iff.1 h
      obtain ⟨hparent, hlist⟩ := Option.filter_eq_some_iff.1 hp
      exact ⟨hk, p, hparent, hlist, rfl⟩
    · cases h
  · rintro ⟨hk, p, hp, hlist, rfl⟩
    unfold Node.IsDeclaration at hk
    rw [if_pos hk, hp]
    simp [Option.filter, hlist, Node.declarators]

theorem exists_declares {s : Statement} (hs : s ∈ statements f) : ∃ D, s.Declares f D := by
  obtain ⟨v, hv, hsome⟩ := List.mem_filterMap.1 hs
  obtain ⟨hk, parent, hparent, -, rfl⟩ := statement?_eq_some.1 hsome
  rcases Node.mem_walk.1 hv with rfl | ⟨p, hp, hp', hchild⟩
  · cases hparent
  obtain rfl : p = parent := Option.some.inj (hp'.symm.trans hparent)
  refine ⟨v.node, ?_, ?_, hk, rfl⟩
  · dsimp only
    split
    · exact hp
    · exact Node.mem_nodes_trans (Node.child_mem_nodes hchild) hp
  · dsimp only
    split
    · exact .inr ⟨‹_›, hchild⟩
    · exact .inl rfl

/-- The spans of the declarators of a declaration, marked where the binding goes. -/
def marks (f : Facts) (gone : List Nat) (D : Node) : List (Span × Bool) :=
  D.declarators.map fun d => (d.span, (declarator f d).goes gone)

/-- What the rule may propose to delete: a whole statement, if all its declarators go, or a run of declarators. -/
inductive Cut (f : Facts) (gone : List Nat) : Span → Prop
  | whole {s : Statement} {D : Node} : s ∈ statements f → s.Declares f D →
    (∀ d ∈ D.declarators, (declarator f d).goes gone = true) → Cut f gone s.outer.fullSpan
  | run {s : Statement} {D : Node} {r : Span} : s ∈ statements f → s.Declares f D →
    r ∈ runDeletions none none (marks f gone D) → Cut f gone r

/-- Every edit proposed for a statement deletes a cut. -/
private theorem cut_of_mem_proposeFor {s : Statement} (hs : s ∈ statements f) {e : Edit}
    (he : e ∈ (proposeFor gone s).edits) : ∃ r, e = .delete r ∧ Cut f gone r := by
  obtain ⟨D, hD⟩ := exists_declares hs
  unfold proposeFor at he
  dsimp only at he
  split at he
  · cases he
  · dsimp only at he
    split at he
    · rename_i hall
      rw [List.length_filter_eq_length_iff] at hall
      obtain rfl := List.mem_singleton.1 he
      refine ⟨_, rfl, .whole hs hD fun d hd => hall _ ?_⟩
      rw [hD.declarators_eq]
      exact List.mem_map_of_mem hd
    · obtain ⟨r, hr, rfl⟩ := List.mem_map.1 he
      refine ⟨r, rfl, .run hs hD ?_⟩
      rw [hD.declarators_eq, List.map_map] at hr
      exact hr

theorem cut_of_mem_propose {e : Edit}
    (he : e ∈ (propose f).edits) :
    ∃ r, e = .delete r ∧ Cut f (removed f.scopes.referencesTo (candidates (statements f))) r := by
  simp only [propose, Proposal.edits_concat, List.flatMap_map, List.mem_flatMap] at he
  obtain ⟨s, hs, he⟩ := he
  exact cut_of_mem_proposeFor hs he

/-! ### Where the cuts stand -/

private theorem inOrder_marks (h : f.tree.root.IsNested) {D : Node} (hD : D ∈ f.tree.root.nodes) :
    Span.InOrder D.span.stop D.span.start ((outstanding none none (marks f gone D)).map (·.1)) := by
  have hD' := h.of_mem hD
  have hspans : (outstanding none none (marks f gone D)).map (·.1) = D.declarators.map Node.span := by
    simp [outstanding, marks, Function.comp_def]
  rw [hspans]
  refine .of_pairwise (hD'.pairwise_children.filter _) hD'.start_le_stop fun d hd => ?_
  have hd' := (Node.mem_declarators.1 hd).1
  have h₁ := Span.covers_iff.1 (hD'.covers_child hd')
  have h₂ := (hD'.child hd').start_le_stop
  exact ⟨h₁.1, h₂, h₁.2⟩

/-- A run of declarators is taken out of the span of the declaration. -/
private theorem run_inside (h : f.tree.root.IsNested) {D : Node} (hD : D ∈ f.tree.root.nodes) {r : Span}
    (hr : r ∈ runDeletions none none (marks f gone D)) : r.start ≤ r.stop ∧ D.span.covers r = true := by
  obtain ⟨h₁, h₂, h₃⟩ := (inOrder_runDeletions (inOrder_marks h hD)).of_mem hr
  exact ⟨h₂, Span.covers_iff.2 ⟨h₁, h₃⟩⟩

/-- A run of declarators takes a declarator that goes as a whole or not at all, and nothing of one that stays. -/
theorem run_respects (h : f.tree.root.IsNested) {D : Node} (hD : D ∈ f.tree.root.nodes) {r : Span}
    (hr : r ∈ runDeletions none none (marks f gone D)) {d : Node} (hd : d ∈ D.declarators) :
    Respects r (d.span, (declarator f d).goes gone) := by
  refine respects_of_mem_runDeletions (inOrder_marks h hD) hr _ ?_
  simp only [outstanding, Option.map_none, Option.toList_none, List.nil_append, marks]
  exact List.mem_map_of_mem hd

/-- A run of declarators starts and stops where declarators do. -/
theorem ends_of_run {D : Node} {r : Span} (hr : r ∈ runDeletions none none (marks f gone D)) :
    (∃ d ∈ D.declarators, r.start = d.span.start ∨ r.start = d.span.stop) ∧
      ∃ d ∈ D.declarators, r.stop = d.span.start ∨ r.stop = d.span.stop := by
  have hend : ∀ {offset : Nat}, IsEnd (outstanding none none (marks f gone D)) offset →
      ∃ d ∈ D.declarators, offset = d.span.start ∨ offset = d.span.stop := by
    rintro offset ⟨i, hi, hend⟩
    simp only [outstanding, Option.map_none, Option.toList_none, List.nil_append, marks] at hi
    obtain ⟨d, hd, rfl⟩ := List.mem_map.1 hi
    exact ⟨d, hd, hend⟩
  obtain ⟨hstart, hstop⟩ := isEnd_of_mem_runDeletions hr
  exact ⟨hend hstart, hend hstop⟩

/-- A cut that meets a leaf belongs to a statement around the leaf, and the declarators around the leaf go. -/
theorem Cut.around_leaf {r : Span} (hcut : Cut f gone r) (hnested : f.tree.root.IsNested)
    (hcomments : f.tree.root.CommentsAreLeaves) (hplaced : f.tree.root.IsPlaced) {m : Node}
    (hm : m ∈ f.tree.root.nodes) (hleaf : m.children = []) (hmk : m.kind ≠ .comment) (hmeets : r.Meets m.span) :
    ∃ s ∈ statements f, ∃ D, Statement.Declares f s D ∧ m ∈ s.outer.nodes ∧
      ∀ x ∈ D.declarators, m ∈ x.nodes → (declarator f x).goes gone = true := by
  cases hcut with
  | @whole s D hs hD hall =>
    refine ⟨s, hs, D, hD, ?_, fun x hx _ => hall x hx⟩
    rcases hplaced.inside_or_before hnested hcomments hD.outer_mem hm hD.outer_not_comment hmk
      with hin | hin | hlt | hlt
    · rw [Node.eq_of_mem_nodes_leaf hin hleaf]
      exact Node.mem_nodes_self m
    · exact hin
    · have hle := (hplaced.of_mem hm).start_le
      exact absurd hmeets (Span.Apart.not_meets (.inl (Nat.le_trans hlt hle)))
    · exact absurd hmeets (Span.Apart.not_meets (.inr hlt))
  | @run s D _ hs hD hrun =>
    have hinside := (run_inside hnested hD.mem_root hrun).2
    have hmD : m ∈ D.nodes := by
      rcases hnested.inside_of_meets hD.mem_root hm (hmeets.of_covers hinside) with hin | hin
      · rw [Node.eq_of_mem_nodes_leaf hin hleaf]
        exact Node.mem_nodes_self m
      · exact hin
    refine ⟨s, hs, D, hD, Node.mem_nodes_trans hmD hD.mem_outer, fun x hx hmx => ?_⟩
    have hxroot := Node.mem_nodes_trans (Node.child_mem_nodes (Node.mem_declarators.1 hx).1) hD.mem_root
    rcases run_respects hnested hD.mem_root hrun hx with ⟨hgoes, -⟩ | hapart
    · exact hgoes
    · have hcovers := (hnested.of_mem hxroot).covers hmx
      exact absurd hmeets (hapart.of_covers (Span.covers_self _) hcovers).not_meets

/-- What is declared further inside of a declaration, the runs of its declarators take as a whole or not at all. -/
def RunsSpareInner (f : Facts) (gone : List Nat) : Prop :=
  ∀ D ∈ f.tree.root.nodes, D.IsDeclaration → ∀ r ∈ runDeletions none none (marks f gone D), ∀ m ∈ D.nodes, m ≠ D →
    m.IsDeclaration ∨ m.IsExportedDeclaration → r.covers m.fullSpan = true ∨ r.Apart m.fullSpan

/-- Of two places where variables are declared, one stands inside the other or precedes it. -/
def DeclarationsPrecede (n : Node) : Prop :=
  ∀ a ∈ n.nodes, ∀ b ∈ n.nodes, a.IsDeclaration ∨ a.IsExportedDeclaration →
    b.IsDeclaration ∨ b.IsExportedDeclaration → a ∈ b.nodes ∨ b ∈ a.nodes ∨ a.Precedes b ∨ b.Precedes a

section Anchors

variable (hnested : f.tree.root.IsNested) (hplaced : f.tree.root.IsPlaced)
include hnested hplaced

theorem Cut.start_le_stop {r : Span} (hcut : Cut f gone r) : r.start ≤ r.stop := by
  cases hcut with
  | whole hs hD hall =>
    have h₁ := (hplaced.of_mem hD.outer_mem).start_le
    have h₂ := (hnested.of_mem hD.outer_mem).start_le_stop
    exact Nat.le_trans h₁ h₂
  | run hs hD hr => exact (run_inside hnested hD.mem_root hr).1

/-- A cut belongs to a node, a declaration or an export statement. It is the full span of that node or lies inside of
its span, and what is declared further inside it takes as a whole or not at all. -/
private theorem Cut.exists_anchor (hruns : RunsSpareInner f gone) {r : Span} (hcut : Cut f gone r) :
    ∃ a ∈ f.tree.root.nodes, (a.IsDeclaration ∨ a.IsExportedDeclaration) ∧ a.fullSpan.covers r = true ∧
      (r = a.fullSpan ∨ a.span.covers r = true ∧ r ∈ runDeletions none none (marks f gone a)) ∧
      ∀ m ∈ a.nodes, m ≠ a → m.IsDeclaration ∨ m.IsExportedDeclaration →
        r.covers m.fullSpan = true ∨ r.Apart m.fullSpan := by
  cases hcut with
  | @whole s D hs hD hall =>
    refine ⟨s.outer, hD.outer_mem, hD.outer_kind, Span.covers_self _, .inl rfl, fun m hm _ _ => .inl ?_⟩
    exact (hplaced.of_mem hD.outer_mem).covers_fullSpan (hnested.of_mem hD.outer_mem) hm
  | @run s D _ hs hD hr =>
    have hDroot := hD.mem_root
    have hinside := (run_inside hnested hDroot hr).2
    refine ⟨D, hDroot, .inl hD.isDeclaration, ?_, .inr ⟨hinside, hr⟩, hruns D hDroot hD.isDeclaration r hr⟩
    exact Span.covers_trans (hplaced.of_mem hDroot).covers_span hinside

omit hplaced in
/-- A cut of a node and a cut of one that it precedes are apart, or the later takes in the earlier. -/
private theorem laminar_of_precedes {a b : Node} (hb : b ∈ f.tree.root.nodes) (hab : a.Precedes b) {r t : Span}
    (har : a.fullSpan.covers r = true) (htb : t = b.fullSpan ∨ b.span.covers t = true) : r.Laminar t := by
  have hb' := (hnested.of_mem hb).start_le_stop
  obtain ⟨hspan, hfull⟩ := hab
  rw [Span.covers_iff, Node.stop_fullSpan] at har
  rcases htb with rfl | htb
  · rcases hfull with hfull | hfull
    · exact .inr (.inr (.inl (Nat.le_trans har.2 hfull)))
    · refine .inr (.inl (Span.covers_iff.2 ⟨Nat.le_trans hfull har.1, ?_⟩))
      rw [Node.stop_fullSpan]
      omega
  · rw [Span.covers_iff] at htb
    exact .inr (.inr (.inl (by omega)))

/-- Two cuts lie one inside the other or apart. -/
theorem Cut.laminar_of_precede (hruns : RunsSpareInner f gone) (hprecede : DeclarationsPrecede f.tree.root)
    {r t : Span} (hr : Cut f gone r) (ht : Cut f gone t) : r.Laminar t := by
  obtain ⟨a, ha, hak, har, hra, hadeep⟩ := hr.exists_anchor hnested hplaced hruns
  obtain ⟨b, hb, hbk, hbt, htb, hbdeep⟩ := ht.exists_anchor hnested hplaced hruns
  by_cases hab : a = b
  · subst hab
    rcases hra with rfl | ⟨-, hra⟩
    · exact .inl hbt
    rcases htb with rfl | ⟨-, htb⟩
    · exact .inr (.inl har)
    rcases (inOrder_runDeletions (inOrder_marks hnested ha)).eq_or_apart hra htb with rfl | hapart
    · exact .inl (Span.covers_self _)
    · exact .inr (.inr hapart)
  rcases hprecede a ha b hb hak hbk with hin | hin | hlt | hlt
  · rcases hbdeep a hin hab hak with hcovers | hapart
    · exact .inr (.inl (Span.covers_trans hcovers har))
    · exact .inr (.inr (hapart.of_covers (Span.covers_self _) har).symm)
  · rcases hadeep b hin (Ne.symm hab) hbk with hcovers | hapart
    · exact .inl (Span.covers_trans hcovers hbt)
    · exact .inr (.inr (hapart.of_covers (Span.covers_self _) hbt))
  · exact laminar_of_precedes hnested hb hlt har (htb.imp_right And.left)
  · exact (laminar_of_precedes hnested ha hlt hbt (hra.imp_right And.left)).symm

end Anchors

section Cuts

variable (h : f.tree.root.DeclaresInOrder) (hplaced : f.tree.root.IsPlaced)
include h hplaced

omit hplaced in
private theorem runsSpareInner_of_inOrder : RunsSpareInner f gone := by
  intro D hD hDk r hr m hm hne hmk
  obtain ⟨c, hc, hmc⟩ := (Node.mem_nodes.1 hm).resolve_left hne
  obtain ⟨d, hd, hcovers⟩ := h.inside D hD hDk c hc m hmc hmk
  rcases run_respects h.nested hD hr hd with ⟨-, hd'⟩ | hapart
  · exact .inl (Span.covers_trans hd' hcovers)
  · exact .inr (hapart.of_covers (Span.covers_self _) hcovers)

private theorem declarationsPrecede_of_inOrder : DeclarationsPrecede f.tree.root := by
  intro a ha b hb hak hbk
  have hcode : ∀ {n : Node}, n.IsDeclaration ∨ n.IsExportedDeclaration → n.kind ≠ .comment := by
    intro n hn hk
    rcases hn with (hk' | hk') | ⟨hk', -⟩ <;> rw [hk] at hk' <;> cases hk'
  have hle : ∀ {x y : Node}, y ∈ f.tree.root.nodes → x.span.stop ≤ y.fullSpan.start → x.Precedes y :=
    fun hy hlt => ⟨Nat.le_trans hlt (hplaced.of_mem hy).start_le, .inl hlt⟩
  rcases hplaced.inside_or_before h.nested h.comments ha hb (hcode hak) (hcode hbk) with hin | hin | hlt | hlt
  · exact .inl hin
  · exact .inr (.inl hin)
  · exact .inr (.inr (.inl (hle hb hlt)))
  · exact .inr (.inr (.inr (hle ha hlt)))

/-- Two cuts lie one inside the other or apart. -/
theorem Cut.laminar {r t : Span} (hr : Cut f gone r) (ht : Cut f gone t) : r.Laminar t :=
  hr.laminar_of_precede h.nested hplaced (runsSpareInner_of_inOrder h) (declarationsPrecede_of_inOrder h hplaced) ht

/-- A declarator that stays, and stands inside no declarator that goes, meets only cuts that lie inside of it. -/
theorem Cut.inside_of_meets {r : Span} (hr : Cut f gone r) {P d : Node} (hP : P ∈ f.tree.root.nodes)
    (hPk : P.IsDeclaration) (hd : d ∈ P.declarators)
    (hstays : ∀ s ∈ statements f, ∀ x ∈ s.declarators, x.goes gone = true → d ∉ x.node.nodes)
    (hmeets : r.Meets d.span) : d.span.covers r = true := by
  obtain ⟨hdP, hdk⟩ := Node.mem_declarators.1 hd
  have hdroot : d ∈ f.tree.root.nodes := Node.mem_nodes_trans (Node.child_mem_nodes hdP) hP
  have hbyte : d.span.start < d.span.stop := by
    obtain ⟨offset, -, hoffset⟩ := hmeets
    rw [Span.holds_iff] at hoffset
    omega
  -- a declarator around `d` stays
  have houter : ∀ {s : Statement} {D x : Node}, s ∈ statements f → s.Declares f D → x ∈ D.declarators →
      d ∈ x.nodes → ¬ (declarator f x).goes gone = true := by
    intro s D x hs hD hx hdx hgoes
    refine hstays s hs (declarator f x) ?_ hgoes hdx
    rw [hD.declarators_eq]
    exact List.mem_map_of_mem hx
  cases hr with
  | @whole s D hs hD hall =>
    have hne : d.kind ≠ .comment := by rw [hdk]; decide
    rcases hplaced.inside_or_before h.nested h.comments hD.outer_mem hdroot hD.outer_not_comment hne
      with hin | hin | hlt | hlt
    · -- the statement lies inside of a declarator of `P`, which can only be `d`
      obtain ⟨x, hx, hcovers⟩ := h.inside P hP hPk d hdP _ hin hD.outer_kind
      have hx' := (Node.mem_declarators.1 hx).1
      obtain rfl := (h.nested.of_mem hP).eq_of_meets hx' hdP (hmeets.of_covers hcovers)
      exact hcovers
    · have hdD := hD.mem_declaration h hP hPk hd hbyte hin
      obtain ⟨x, hx, hdx⟩ := h.inside_declarator hplaced hD.mem_root hD.isDeclaration hP hPk hd hbyte hdD
      exact absurd (hall x hx) (houter hs hD hx hdx)
    · have hle := (hplaced.of_mem hdroot).start_le
      exact absurd hmeets (Span.Apart.not_meets (.inl (Nat.le_trans hlt hle)))
    · exact absurd hmeets (Span.Apart.not_meets (.inr hlt))
  | @run s D _ hs hD hrun =>
    have hinside := (run_inside h.nested hD.mem_root hrun).2
    have hmeets' := (hmeets.of_covers hinside).symm
    rcases h.nested.inside_of_meets hdroot hD.mem_root hmeets' with hin | hin
    · obtain ⟨x, hx, hdx⟩ := h.inside_declarator hplaced hD.mem_root hD.isDeclaration hP hPk hd hbyte hin
      have hxroot := Node.mem_nodes_trans (Node.child_mem_nodes (Node.mem_declarators.1 hx).1) hD.mem_root
      have hxd := (h.nested.of_mem hxroot).covers hdx
      rcases run_respects h.nested hD.mem_root hrun hx with ⟨hgoes, -⟩ | hapart
      · exact absurd hgoes (houter hs hD hx hdx)
      · exact absurd hmeets (hapart.of_covers (Span.covers_self _) hxd).not_meets
    · exact Span.covers_trans ((h.nested.of_mem hdroot).covers hin) hinside

/-- A declarator that goes lies inside of a proposed deletion. -/
theorem covered_of_goes {s : Statement} (hs : s ∈ statements f) {x : Declarator} (hx : x ∈ s.declarators)
    (hgoes : x.goes gone = true) : ∃ r, .delete r ∈ (proposeFor gone s).edits ∧ r.covers x.node.span = true := by
  obtain ⟨D, hD⟩ := exists_declares hs
  have hxD := hx
  rw [hD.declarators_eq] at hxD
  obtain ⟨d, hd, rfl⟩ := List.mem_map.1 hxD
  have hsome : (s.declarators.filter (·.goes gone)).isEmpty = false := by
    rw [List.isEmpty_eq_false_iff_exists_mem]
    exact ⟨_, List.mem_filter.2 ⟨hx, hgoes⟩⟩
  unfold proposeFor
  dsimp only
  rw [hsome, if_neg (by decide)]
  dsimp only
  split
  · have hd' : d ∈ s.outer.nodes :=
      Node.mem_nodes_trans (Node.child_mem_nodes (Node.mem_declarators.1 hd).1) hD.mem_outer
    refine ⟨_, List.mem_singleton_self _, ?_⟩
    exact Span.covers_trans ((hplaced.of_mem hD.outer_mem).covers_span)
      ((h.nested.of_mem hD.outer_mem).covers hd')
  · rename_i hnot
    -- some declarator stays
    have hleft : ∃ i ∈ marks f gone D, i.2 = false := by
      by_contra hnone
      refine hnot (List.length_filter_eq_length_iff.2 fun y hy => ?_)
      rw [hD.declarators_eq] at hy
      obtain ⟨c, hc, rfl⟩ := List.mem_map.1 hy
      by_contra hstays
      exact hnone ⟨_, List.mem_map_of_mem hc, by simpa using hstays⟩
    obtain ⟨r, hr, hcovers⟩ := covered_by_runDeletions (inOrder_marks h.nested hD.mem_root) (.inr hleft)
      (d.span, true) (by
        simp only [outstanding, Option.map_none, Option.toList_none, List.nil_append, marks, ← hgoes]
        exact List.mem_map_of_mem hd) rfl
    refine ⟨r, List.mem_map.2 ⟨r, ?_, rfl⟩, hcovers⟩
    rw [hD.declarators_eq, List.map_map]
    exact hr

end Cuts

/-! ### The rule -/

/-- A binding that goes is one of the bindings. -/
private theorem lt_of_mem_removed {uses : Nat → List Reference} {id : Nat}
    (h : id ∈ removed uses (candidates (statements f))) : id < f.scopes.bindings.size := by
  obtain ⟨⟨c, hc, rfl⟩, -⟩ := removed_spec h
  obtain ⟨x, hx, hxc⟩ := List.mem_filterMap.1 hc
  obtain ⟨s, hs, hx⟩ := List.mem_flatMap.1 hx
  obtain ⟨D, hD⟩ := exists_declares hs
  rw [hD.declarators_eq] at hx
  obtain ⟨d, -, rfl⟩ := List.mem_map.1 hx
  obtain ⟨id, hid, rfl⟩ := Option.map_eq_some_iff.1 hxc
  obtain ⟨name, -, hid⟩ := Option.bind_eq_some_iff.1 hid
  unfold removableBinding? at hid
  split at hid
  · obtain ⟨-, hany⟩ := Option.filter_eq_some_iff.1 hid
    cases hb : f.scopes.bindings[id]? with
    | none => simp [hb] at hany
    | some b => exact (Array.getElem?_eq_some_iff.1 hb).1
  · cases hid

/-- The rule on unused variables gives merged edits in which everything that goes is deleted, every use of what goes is
deleted with it, and a declarator that stays, outside of those that go, is touched only by edits inside of it. -/
theorem unused_are_deleted_and_used_kept (bare : BareNode) (source : String) (dialect : Dialect) (settings : Settings)
    (h : (bare.place 0).DeclaresInOrder) :
    let f := Facts.ofTree ⟨bare.place 0, source, dialect⟩ settings
    let gone := removed f.scopes.referencesTo (candidates (statements f))
    ∃ set result, Rule.check .unusedVariables f = .ok (set, result) ∧
      (∀ s ∈ statements f, ∀ x ∈ s.declarators, x.goes gone = true →
        ∃ e ∈ set.edits, e.isDelete = true ∧ e.span.covers x.node.span = true) ∧
      (∀ r ∈ f.scopes.references, ∀ id ∈ gone, r.binding = some id →
        ∃ e ∈ set.edits, e.isDelete = true ∧ e.span.covers r.site.span = true) ∧
      (∀ D ∈ f.tree.root.nodes, D.IsDeclaration → ∀ d ∈ D.declarators,
        (∀ s ∈ statements f, ∀ x ∈ s.declarators, x.goes gone = true → d ∉ x.node.nodes) →
        ∀ e ∈ set.edits, e.span.Meets d.span → d.span.covers e.span = true) := by
  intro f gone
  have hplaced : f.tree.root.IsPlaced := BareNode.isPlaced_place bare 0 h.nested
  have hcut : ∀ e ∈ (propose f).edits, ∃ r, e = .delete r ∧ Cut f gone r := fun e he => cut_of_mem_propose he
  obtain ⟨set, hset⟩ : ∃ set, EditSet.merge (propose f).edits = .ok set := by
    refine EditSet.merge_ok_of_laminar ?_ ?_
    · intro e he
      obtain ⟨r, rfl, hr⟩ := hcut e he
      exact ⟨rfl, hr.start_le_stop h.nested hplaced⟩
    · intro a ha b hb
      obtain ⟨r, rfl, hr⟩ := hcut a ha
      obtain ⟨t, rfl, ht⟩ := hcut b hb
      exact hr.laminar h hplaced ht
  have hgoes : ∀ s ∈ statements f, ∀ x ∈ s.declarators, x.goes gone = true →
      ∃ e ∈ set.edits, e.isDelete = true ∧ e.span.covers x.node.span = true := by
    intro s hs x hx hx'
    obtain ⟨r, hr, hcovers⟩ := covered_of_goes h hplaced hs hx hx'
    have hmem : .delete r ∈ (propose f).edits := by
      simp only [propose, Proposal.edits_concat, List.flatMap_map, List.mem_flatMap]
      exact ⟨s, hs, hr⟩
    obtain ⟨e, he, hdelete, hcovers'⟩ := EditSet.covered_of_merge hset hmem
    exact ⟨e, he, hdelete, Span.covers_trans hcovers' hcovers⟩
  obtain ⟨result, hcheck⟩ := Rule.check_of_merge .unusedVariables hset
  refine ⟨set, result, hcheck, hgoes, ?_, ?_⟩
  · intro r hr id hid hbinding
    -- the reference is one of the uses of the binding, which stand inside candidates that go
    have huse : r ∈ f.scopes.referencesTo id := by
      rw [show f.scopes = ScopeTree.ofRecord _ from rfl, ScopeTree.referencesTo_ofRecord _ (lt_of_mem_removed hid)]
      exact List.mem_filter.2 ⟨Array.mem_toList_iff.2 hr, by simpa using hbinding⟩
    obtain ⟨c, hc, hgone, hcovers⟩ := (removed_spec hid).2 r huse
    obtain ⟨x, hx, hxc⟩ := List.mem_filterMap.1 hc
    obtain ⟨s, hs, hx⟩ := List.mem_flatMap.1 hx
    obtain ⟨id', hid', rfl⟩ := Option.map_eq_some_iff.1 hxc
    have hx' : x.goes gone = true := by
      simp only [Declarator.goes, hid', Option.any_some, List.contains_eq_mem, decide_eq_true_eq]
      exact hgone
    obtain ⟨e, he, hdelete, hcovers'⟩ := hgoes s hs x hx hx'
    exact ⟨e, he, hdelete, Span.covers_trans hcovers' hcovers⟩
  · intro D hD hDk d hd hstays e he hmeets
    obtain ⟨r, rfl, hr⟩ := hcut e (EditSet.mem_of_mem_merge hset he)
    exact hr.inside_of_meets h hplaced hD hDk hd hstays hmeets

/-- Of three variables, the second uses the first and nothing uses the second; a call uses the third. -/
def chained : BareNode :=
  .regular .program none 0 32
    [.byVar none 0 24
      [.initialized 4 5 (.digit 8), .sign "," 9, .initialized 11 12 (.identifier (some .value) 15 16), .sign "," 16,
       .initialized 18 19 (.digit 22)],
     .called 25 28 31]

/-- The first two go, with the reference from the second to the first. -/
theorem unused_are_deleted_and_used_kept_chained :
    let f := Facts.ofTree ⟨chained.place 0, "var a = 1, b = a, c = 2; use(c);", .javascript⟩ .standard
    let gone := removed f.scopes.referencesTo (candidates (statements f))
    (chained.place 0).DeclaresInOrder ∧ gone = [0, 1] ∧
    ∃ set result, Rule.check .unusedVariables f = .ok (set, result) ∧
      (∀ r ∈ f.scopes.references, ∀ id ∈ gone, r.binding = some id →
        ∃ e ∈ set.edits, e.isDelete = true ∧ e.span.covers r.site.span = true) ∧
      (∀ D ∈ f.tree.root.nodes, D.IsDeclaration → ∀ d ∈ D.declarators,
        (∀ s ∈ statements f, ∀ x ∈ s.declarators, x.goes gone = true → d ∉ x.node.nodes) →
        ∀ e ∈ set.edits, e.span.Meets d.span → d.span.covers e.span = true) := by
  intro f gone
  have h : (chained.place 0).DeclaresInOrder := by decide +kernel
  obtain ⟨set, result, hcheck, -, huses, hstays⟩ :=
    unused_are_deleted_and_used_kept chained "var a = 1, b = a, c = 2; use(c);" .javascript .standard h
  exact ⟨h, by decide +kernel, set, result, hcheck, huses, hstays⟩

end UnusedVariables

end ScriptTidy
