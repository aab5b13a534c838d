import ScriptTidy.Proofs.Syntax.Nesting

/-!
# Where full spans start

Placed in a tree, a node starts its full span where its parent does or where a sibling stops that is no comment
(`isAnchored_place`). So a full span never starts in the middle of another node: of two nodes that stand apart, the full
span of the later one lies behind the earlier one or takes in its full span as well (`IsNested.inside_or_precedes`).
Nothing is asked of comments here, which may hold other nodes.
-/

namespace ScriptTidy

namespace Node

@[simp] theorem stop_fullSpan (n : Node) : n.fullSpan.stop = n.span.stop := rfl

/-- In the whole tree, a node starts its full span where its parent starts it or where a sibling stops. -/
def IsAnchored (n : Node) : Prop :=
  ∀ m ∈ n.nodes, ∀ c ∈ m.children, c.fullSpan.start = m.fullSpan.start ∨
    ∃ s ∈ m.children, s.kind ≠ .comment ∧ c.fullSpan.start = s.span.stop

/-- The full span of the tree starts at the offset, or a node of the tree starts or stops there. -/
def HasEnd (n : Node) (offset : Nat) : Prop :=
  offset = n.fullSpan.start ∨ ∃ m ∈ n.nodes, offset = m.span.start ∨ offset = m.span.stop

/-- Node `a` stops before `b` starts, and `b` has the whole full span of `a` in front of it or none of it. -/
def Precedes (a b : Node) : Prop :=
  a.span.stop ≤ b.span.start ∧ (a.span.stop ≤ b.fullSpan.start ∨ b.fullSpan.start ≤ a.fullSpan.start)

namespace IsAnchored

variable {n : Node}

theorem of_mem (h : n.IsAnchored) {m : Node} (hm : m ∈ n.nodes) : m.IsAnchored :=
  fun x hx => h x (mem_nodes_trans hx hm)

/-- A full span inside of a node starts where that of the node starts, or not before the node. -/
private theorem start_eq_or_ge (h : n.IsAnchored) (hn : n.IsNested) {m : Node} (hm : m ∈ n.nodes) :
    m.fullSpan.start = n.fullSpan.start ∨ n.span.start ≤ m.fullSpan.start := by
  induction n using Node.induction with
  | h label children ih =>
    rcases mem_nodes.1 hm with rfl | ⟨c, hc, hm⟩
    · exact .inl rfl
    have hstart := (Span.covers_iff.1 (hn.covers_child hc)).1
    rcases ih c hc (h.of_mem (child_mem_nodes hc)) (hn.child hc) hm with heq | hge
    · rcases h _ (mem_nodes_self _) c hc with hparent | ⟨s, hs, -, hstop⟩
      · exact .inl (heq.trans hparent)
      · have hs' := (Span.covers_iff.1 (hn.covers_child hs)).1
        have hle := (hn.child hs).start_le_stop
        right
        omega
    · exact .inr (Nat.le_trans hstart hge)

/-- Full spans start where that of the root starts, or where a node stops. -/
theorem hasEnd_fullSpan (h : n.IsAnchored) {m : Node} (hm : m ∈ n.nodes) : n.HasEnd m.fullSpan.start := by
  induction n using Node.induction with
  | h label children ih =>
    rcases mem_nodes.1 hm with rfl | ⟨c, hc, hm⟩
    · exact .inl rfl
    rcases ih c hc (h.of_mem (child_mem_nodes hc)) hm with heq | ⟨s, hs, hstop⟩
    · rcases h _ (mem_nodes_self _) c hc with hparent | ⟨s, hs, -, hstop⟩
      · exact .inl (heq.trans hparent)
      · exact .inr ⟨s, child_mem_nodes hs, .inr (heq.trans hstop)⟩
    · exact .inr ⟨s, mem_nodes_of_child hc hs, hstop⟩

end IsAnchored

namespace HasEnd

variable {n m : Node} {offset : Nat}

theorem start (hm : m ∈ n.nodes) : n.HasEnd m.span.start := .inr ⟨m, hm, .inl rfl⟩

theorem stop (hm : m ∈ n.nodes) : n.HasEnd m.span.stop := .inr ⟨m, hm, .inr rfl⟩

/-- An end in a part of a tree is an end in the tree. -/
theorem of_mem (h : m.HasEnd offset) (hn : n.IsAnchored) (hm : m ∈ n.nodes) : n.HasEnd offset := by
  rcases h with rfl | ⟨x, hx, hend⟩
  · exact hn.hasEnd_fullSpan hm
  · exact .inr ⟨x, mem_nodes_trans hx hm, hend⟩

theorem inside (h : n.HasEnd offset) (hn : n.IsNested) (hplaced : n.IsPlaced) :
    n.fullSpan.start ≤ offset ∧ offset ≤ n.fullSpan.stop := by
  have hle := hplaced.start_le
  have hle' := hn.start_le_stop
  rw [stop_fullSpan]
  rcases h with rfl | ⟨m, hm, hend⟩
  · omega
  · have hcovers := Span.covers_iff.1 (hn.covers hm)
    have hm' := (hn.of_mem hm).start_le_stop
    omega

end HasEnd

section Precedence

variable {n : Node} (hnested : n.IsNested) (hplaced : n.IsPlaced) (hanchored : n.IsAnchored)
include hnested hplaced hanchored

/-- Nodes inside of two children precede each other as the children do. -/
private theorem precedes_of_children {c d a b : Node} (hc : c ∈ n.children) (hd : d ∈ n.children) (ha : a ∈ c.nodes)
    (hb : b ∈ d.nodes) (hcd : c.span.stop ≤ d.span.start)
    (hfull : c.kind = .comment ∨ c.span.stop ≤ d.fullSpan.start) : a.Precedes b := by
  have hc' := child_mem_nodes hc
  have hd' := child_mem_nodes hd
  have hac := Span.covers_iff.1 ((hnested.child hc).covers ha)
  have hbd := Span.covers_iff.1 ((hnested.child hd).covers hb)
  have hac' : c.fullSpan.start ≤ a.fullSpan.start :=
    (Span.covers_iff.1 ((hplaced.of_mem hc').covers_fullSpan (hnested.child hc) ha)).1
  have hbd' : d.fullSpan.start ≤ b.fullSpan.start :=
    (Span.covers_iff.1 ((hplaced.of_mem hd').covers_fullSpan (hnested.child hd) hb)).1
  refine ⟨by omega, ?_⟩
  rcases hfull with hcomment | hbehind
  · -- the full span of `d` may reach over the comment `c`, but then it takes in the full span of `c`
    rcases (hanchored.of_mem hd').start_eq_or_ge (hnested.child hd) hb with heq | hge
    · rcases hanchored n (mem_nodes_self n) d hd with hparent | ⟨s, hs, hsk, hstop⟩
      · have := (hplaced n (mem_nodes_self n)).2.1 c hc
        right
        omega
      · have hle := (hnested.child hs).start_le_stop
        have horder : n.children.Pairwise fun x y =>
            x.span.stop ≤ y.span.start ∧ (x.kind = .comment ∨ x.span.stop ≤ y.fullSpan.start) :=
          hnested.pairwise_children.and (hplaced n (mem_nodes_self n)).2.2
        rcases eq_or_rel horder hs hc with rfl | ⟨-, hsc⟩ | ⟨hcs, -⟩
        · exact absurd hcomment hsk
        · have := hsc.resolve_left hsk
          right
          omega
        · left
          omega
    · left
      omega
  · left
    omega

/-- Two nodes stand one inside the other, or one precedes the other. -/
theorem IsNested.inside_or_precedes {a b : Node} (ha : a ∈ n.nodes) (hb : b ∈ n.nodes) :
    a ∈ b.nodes ∨ b ∈ a.nodes ∨ a.Precedes b ∨ b.Precedes a := by
  induction n using Node.induction with
  | h label children ih =>
    rcases mem_nodes.1 ha with rfl | ⟨c, hc, hac⟩
    · exact .inr (.inl hb)
    rcases mem_nodes.1 hb with rfl | ⟨d, hd, hbd⟩
    · exact .inl ha
    have hc' := child_mem_nodes hc
    have horder := hnested.pairwise_children.and (hplaced _ (mem_nodes_self _)).2.2
    rcases eq_or_rel horder hc hd with rfl | ⟨hcd, hfull⟩ | ⟨hdc, hfull⟩
    · exact ih c hc (hnested.child hc) (hplaced.of_mem hc') (hanchored.of_mem hc') hac hbd
    · exact .inr (.inr (.inl (precedes_of_children hnested hplaced hanchored hc hd hac hbd hcd hfull)))
    · exact .inr (.inr (.inr (precedes_of_children hnested hplaced hanchored hd hc hbd hac hdc hfull)))

end Precedence

end Node

/-! ### Placing a bare tree -/

namespace BareNode

open place

private theorem exists_place_of_mem_placeAll {before : Nat} {ns : List BareNode} {c : Node}
    (h : c ∈ placeAll before ns) : ∃ (n : BareNode) (limit : Nat), c = n.place limit := by
  induction ns generalizing before with
  | nil => cases h
  | cons n ns ih =>
    rw [placeAll] at h
    rcases List.mem_cons.1 h with rfl | h
    · exact ⟨n, before, rfl⟩
    · exact ih h

theorem children_place (n : BareNode) (before : Nat) :
    (n.place before).children = placeAll (n.place before).fullSpan.start n.children := by
  cases n; simp [place, Node.children, Node.fullSpan, Node.label, children]

/-- Every node of a placed tree was placed itself. -/
theorem exists_place_of_mem {n : BareNode} {before : Nat} {m : Node} (h : m ∈ (n.place before).nodes) :
    ∃ (n' : BareNode) (limit : Nat), m = n'.place limit := by
  generalize hx : n.place before = x at h
  induction x using Node.induction generalizing n before with
  | h label children ih =>
    rcases Node.mem_nodes.1 h with rfl | ⟨c, hc, hm⟩
    · exact ⟨n, before, hx.symm⟩
    · have hplaced : c ∈ (n.place before).children := by
        rw [hx]
        exact hc
      rw [children_place] at hplaced
      obtain ⟨n', limit, rfl⟩ := exists_place_of_mem_placeAll hplaced
      exact ih _ hc rfl hm

/-- Placed one behind the other, nodes in order start their full spans at `before` or where one in front stops. -/
private theorem start_fullSpan_placeAll (before : Nat) (ns : List BareNode)
    (hpair : (placeAll before ns).Pairwise fun a b => a.span.stop ≤ b.span.start)
    (hstart : ∀ c ∈ placeAll before ns, before ≤ c.span.start) :
    ∀ c ∈ placeAll before ns, c.fullSpan.start = before ∨
      ∃ s ∈ placeAll before ns, s.kind ≠ .comment ∧ c.fullSpan.start = s.span.stop := by
  induction ns generalizing before with
  | nil => simp [placeAll]
  | cons n ns ih =>
    simp only [placeAll, List.pairwise_cons, List.forall_mem_cons, span_place] at hpair hstart
    obtain ⟨hfirst, hpair⟩ := hpair
    obtain ⟨hn, hrest⟩ := hstart
    have hnext : ∀ c ∈ placeAll (limitAfter before n) ns, limitAfter before n ≤ c.span.start := by
      intro c hc
      unfold limitAfter
      split
      · exact hrest c hc
      · exact hfirst c hc
    intro c hc
    rw [placeAll] at hc ⊢
    rcases List.mem_cons.1 hc with rfl | hc
    · rw [start_fullSpan_place]
      exact .inl (Nat.min_eq_left hn)
    rcases ih (limitAfter before n) hpair hnext c hc with heq | ⟨s, hs, hsk, hstop⟩
    · unfold limitAfter at heq
      split at heq
      · exact .inl heq
      · rename_i hk
        exact .inr ⟨n.place before, List.mem_cons_self, by simpa using hk, by simpa using heq⟩
    · exact .inr ⟨s, List.mem_cons_of_mem _ hs, hsk, hstop⟩

/-- A nested tree that was placed is anchored. -/
theorem isAnchored_place (n : BareNode) (before : Nat) (h : (n.place before).IsNested) :
    (n.place before).IsAnchored := by
  intro m hm
  obtain ⟨n', limit, rfl⟩ := exists_place_of_mem hm
  have hnested := h.of_mem hm
  have hplaced := isPlaced_place n' limit hnested
  have hpair := hnested.pairwise_children
  have hstart : ∀ c ∈ (n'.place limit).children, (n'.place limit).fullSpan.start ≤ c.span.start := by
    intro c hc
    have h₁ := hplaced.start_le
    have h₂ := (Span.covers_iff.1 (hnested.covers_child hc)).1
    omega
  rw [children_place] at hpair hstart ⊢
  exact start_fullSpan_placeAll _ _ hpair hstart

theorem start_fullSpan_place_zero (n : BareNode) : (n.place 0).fullSpan.start = 0 := by
  rw [start_fullSpan_place]
  exact Nat.zero_min _

end BareNode

end ScriptTidy
