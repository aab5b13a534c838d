import ScriptTidy.Proofs.Syntax.Placing
import ScriptTidy.Proofs.Syntax.Walk

/-!
# Where the nodes of a tree stand

In a nested tree the children of every node lie inside it, in order and apart. So two nodes either stand one inside
the other or apart (`IsNested.inside_or_apart`). Placing a bare tree adds the full spans, which reach back over blanks
and comments but never into a node in front (`isPlaced_place`); with comments as leaves, two nodes that are no comments
stand one inside the other or so far apart that not even the full span of the later one touches the earlier
(`IsPlaced.inside_or_before`).

At the end stand definitions from which the trees of short texts are put together.
-/

namespace ScriptTidy

/-- Of two members of a list one stands in front of the other, if they are not the same. -/
theorem eq_or_rel {α : Type} {R : α → α → Prop} {xs : List α} (h : xs.Pairwise R) {a b : α} (ha : a ∈ xs)
    (hb : b ∈ xs) : a = b ∨ R a b ∨ R b a := by
  have hfront : xs.Pairwise fun x y => x = y ∨ R x y ∨ R y x := h.imp fun h => .inr (.inl h)
  have hback : xs.Pairwise fun x y => y = x ∨ R y x ∨ R x y := h.imp fun h => .inr (.inr h)
  exact List.Pairwise.forall_of_forall_of_flip (fun _ _ => .inl rfl) hfront hback ha hb

/-- A list with at most one member of a kind has it only once. -/
theorem eq_of_not_both {α : Type} {P : α → Prop} {xs : List α} (h : xs.Pairwise fun a b => ¬ (P a ∧ P b)) {a b : α}
    (ha : a ∈ xs) (hb : b ∈ xs) (ha' : P a) (hb' : P b) : a = b := by
  rcases eq_or_rel h ha hb with heq | hnot | hnot
  · exact heq
  · exact absurd ⟨ha', hb'⟩ hnot
  · exact absurd ⟨hb', ha'⟩ hnot

namespace Span

/-- One of the spans stops before the other starts. -/
def Apart (s t : Span) : Prop := s.stop ≤ t.start ∨ t.stop ≤ s.start

/-- Some byte belongs to both spans. -/
def Meets (s t : Span) : Prop := ∃ offset, s.holds offset = true ∧ t.holds offset = true

theorem holds_iff {s : Span} {offset : Nat} : s.holds offset = true ↔ s.start ≤ offset ∧ offset < s.stop := by
  simp [holds]

theorem holds_of_covers {s t : Span} (h : s.covers t = true) {offset : Nat} (ht : t.holds offset = true) :
    s.holds offset = true := by
  rw [covers_iff] at h
  rw [holds_iff] at ht ⊢
  omega

theorem Apart.symm {s t : Span} (h : s.Apart t) : t.Apart s := Or.symm h

/-- Two members of a list whose spans are apart are the same or apart. -/
theorem eq_or_apart {α : Type} {span : α → Span} {xs : List α} (h : xs.Pairwise fun a b => (span a).Apart (span b))
    {a b : α} (ha : a ∈ xs) (hb : b ∈ xs) : a = b ∨ (span a).Apart (span b) := by
  rcases eq_or_rel h ha hb with heq | hapart | hapart
  · exact .inl heq
  · exact .inr hapart
  · exact .inr hapart.symm

theorem Apart.not_meets {s t : Span} (h : s.Apart t) : ¬ s.Meets t := by
  rintro ⟨offset, hs, ht⟩
  rw [holds_iff] at hs ht
  rcases h with h | h <;> omega

/-- A span with a byte is not apart from itself. -/
theorem not_apart_self {s : Span} (h : s.start < s.stop) : ¬ s.Apart s := by
  rintro (hself | hself) <;> omega

theorem Apart.of_covers {s t s' t' : Span} (h : s.Apart t) (hs : s.covers s' = true) (ht : t.covers t' = true) :
    s'.Apart t' := by
  rw [covers_iff] at hs ht
  rcases h with h | h
  · left; omega
  · right; omega

theorem Meets.symm {s t : Span} (h : s.Meets t) : t.Meets s := by
  obtain ⟨offset, hs, ht⟩ := h
  exact ⟨offset, ht, hs⟩

theorem Meets.of_covers {s t s' : Span} (h : s'.Meets t) (hs : s.covers s' = true) : s.Meets t := by
  obtain ⟨offset, hs', ht⟩ := h
  rw [covers_iff] at hs
  rw [holds_iff] at hs'
  exact ⟨offset, holds_iff.2 ⟨by omega, by omega⟩, ht⟩

/-- A span that covers another, which has a byte, shares that byte with it. -/
theorem meets_of_covers {s t : Span} (h : s.covers t = true) (ht : t.start < t.stop) : s.Meets t := by
  rw [covers_iff] at h
  exact ⟨t.start, holds_iff.2 ⟨by omega, by omega⟩, holds_iff.2 ⟨by omega, ht⟩⟩

end Span

namespace Node

/-! ### Nodes inside nodes -/

theorem mem_nodes_trans {a b c : Node} (hab : a ∈ b.nodes) (hbc : b ∈ c.nodes) : a ∈ c.nodes := by
  induction c using Node.induction with
  | h label children ih =>
    rcases mem_nodes.1 hbc with rfl | ⟨d, hd, hbd⟩
    · exact hab
    · exact mem_nodes_of_child hd (ih d hd hbd)

private theorem size_le_sizeAll {c : Node} {ns : List Node} (h : c ∈ ns) : c.size ≤ size.sizeAll ns := by
  induction ns with
  | nil => cases h
  | cons n ns ih =>
    unfold size.sizeAll
    rcases List.mem_cons.1 h with rfl | h
    · omega
    · have := ih h
      omega

private theorem size_lt_of_child {n c : Node} (h : c ∈ n.children) : c.size < n.size := by
  cases n with
  | mk label children =>
    have hle : c.size ≤ size.sizeAll children := size_le_sizeAll h
    exact Nat.lt_succ_of_le hle

private theorem size_le_of_mem_nodes {m n : Node} (h : m ∈ n.nodes) : m.size ≤ n.size := by
  induction n using Node.induction with
  | h label children ih =>
    rcases mem_nodes.1 h with rfl | ⟨c, hc, hm⟩
    · exact Nat.le_refl _
    · have h₁ := ih c hc hm
      have h₂ := size_lt_of_child hc
      omega

/-- A node is not inside its own children. -/
private theorem not_mem_nodes_of_child {n c : Node} (h : c ∈ n.children) : n ∉ c.nodes := by
  intro hn
  have h₁ := size_le_of_mem_nodes hn
  have h₂ := size_lt_of_child h
  omega

theorem eq_of_mem_nodes {a b : Node} (hab : a ∈ b.nodes) (hba : b ∈ a.nodes) : a = b := by
  rcases mem_nodes.1 hab with h | ⟨c, hc, hac⟩
  · exact h
  · exact absurd (mem_nodes_trans hba hac) (not_mem_nodes_of_child hc)

/-- A node without children holds only itself. -/
theorem eq_of_mem_nodes_leaf {m n : Node} (h : m ∈ n.nodes) (hleaf : n.children = []) : m = n := by
  rcases mem_nodes.1 h with h | ⟨c, hc, -⟩
  · exact h
  · rw [hleaf] at hc
    cases hc

/-! ### Nested trees -/

/-- In the whole tree, the ends of a node's span stand in order and its children lie inside of it, in order and
apart. -/
def IsNested (n : Node) : Prop :=
  ∀ m ∈ n.nodes, m.span.start ≤ m.span.stop ∧ (∀ c ∈ m.children, m.span.covers c.span = true) ∧
    m.children.Pairwise fun a b => a.span.stop ≤ b.span.start

instance (n : Node) : Decidable n.IsNested :=
  inferInstanceAs (Decidable (∀ m ∈ n.nodes, m.span.start ≤ m.span.stop ∧
    (∀ c ∈ m.children, m.span.covers c.span = true) ∧
    m.children.Pairwise fun a b => a.span.stop ≤ b.span.start))

namespace IsNested

variable {n : Node}

theorem of_mem (h : n.IsNested) {m : Node} (hm : m ∈ n.nodes) : m.IsNested :=
  fun x hx => h x (mem_nodes_trans hx hm)

theorem child (h : n.IsNested) {c : Node} (hc : c ∈ n.children) : c.IsNested := h.of_mem (child_mem_nodes hc)

theorem start_le_stop (h : n.IsNested) : n.span.start ≤ n.span.stop := (h n (mem_nodes_self n)).1

theorem covers_child (h : n.IsNested) {c : Node} (hc : c ∈ n.children) : n.span.covers c.span = true :=
  (h n (mem_nodes_self n)).2.1 c hc

theorem covers (h : n.IsNested) {m : Node} (hm : m ∈ n.nodes) : n.span.covers m.span = true := by
  induction n using Node.induction with
  | h label children ih =>
    rcases mem_nodes.1 hm with rfl | ⟨c, hc, hm⟩
    · exact Span.covers_self _
    · exact Span.covers_trans (h.covers_child hc) (ih c hc (h.child hc) hm)

theorem pairwise_children (h : n.IsNested) : n.children.Pairwise fun a b => a.span.stop ≤ b.span.start :=
  (h n (mem_nodes_self n)).2.2

theorem eq_or_apart (h : n.IsNested) {a b : Node} (ha : a ∈ n.children) (hb : b ∈ n.children) :
    a = b ∨ a.span.Apart b.span :=
  eq_or_rel h.pairwise_children ha hb

/-- Children that share a byte are the same. -/
theorem eq_of_meets (h : n.IsNested) {a b : Node} (ha : a ∈ n.children) (hb : b ∈ n.children)
    (hab : a.span.Meets b.span) : a = b := by
  rcases h.eq_or_apart ha hb with heq | hapart
  · exact heq
  · exact absurd hab hapart.not_meets

/-- Two nodes of a nested tree stand one inside the other, or apart. -/
theorem inside_or_apart (h : n.IsNested) {a b : Node} (ha : a ∈ n.nodes) (hb : b ∈ n.nodes) :
    a ∈ b.nodes ∨ b ∈ a.nodes ∨ a.span.Apart b.span := by
  induction n using Node.induction with
  | h label children ih =>
    rcases mem_nodes.1 ha with rfl | ⟨c, hc, hac⟩
    · exact .inr (.inl hb)
    rcases mem_nodes.1 hb with rfl | ⟨d, hd, hbd⟩
    · exact .inl ha
    rcases h.eq_or_apart hc hd with rfl | hapart
    · exact ih c hc (h.child hc) hac hbd
    · exact .inr (.inr (hapart.of_covers ((h.child hc).covers hac) ((h.child hd).covers hbd)))

/-- Two nodes that share a byte stand one inside the other. -/
theorem inside_of_meets (h : n.IsNested) {a b : Node} (ha : a ∈ n.nodes) (hb : b ∈ n.nodes)
    (hab : a.span.Meets b.span) : a ∈ b.nodes ∨ b ∈ a.nodes := by
  rcases h.inside_or_apart ha hb with hin | hin | hapart
  · exact .inl hin
  · exact .inr hin
  · exact absurd hab hapart.not_meets

/-- A node strictly inside of another that shares a byte with one of its children stands inside that child. -/
theorem inside_child_of_meets (h : n.IsNested) {m c : Node} (hm : m ∈ n.nodes) (hne : m ≠ n) (hc : c ∈ n.children)
    (hmeets : m.span.Meets c.span) : m ∈ c.nodes := by
  rcases mem_nodes.1 hm with heq | ⟨d, hd, hmd⟩
  · exact absurd heq hne
  · rwa [h.eq_of_meets hc hd (hmeets.of_covers ((h.child hd).covers hmd)).symm]

/-- A node with a byte stands inside of one child only. -/
theorem child_unique (h : n.IsNested) {m a b : Node} (ha : a ∈ n.children) (hb : b ∈ n.children) (hma : m ∈ a.nodes)
    (hmb : m ∈ b.nodes) (hbyte : m.span.start < m.span.stop) : a = b := by
  have hmeets := Span.meets_of_covers ((h.child hb).covers hmb) hbyte
  exact h.eq_of_meets ha hb (hmeets.symm.of_covers ((h.child ha).covers hma))

/-- The parent of a node with a byte stands inside every node around the child. -/
theorem parent_mem_nodes (h : n.IsNested) {p a c : Node} (hp : p ∈ n.nodes) (ha : a ∈ n.nodes) (hc : c ∈ p.children)
    (hca : c ∈ a.nodes) (hne : c ≠ a) (hbyte : c.span.start < c.span.stop) : p ∈ a.nodes := by
  rcases h.inside_or_apart hp ha with hin | hin | hapart
  · exact hin
  · rcases mem_nodes.1 hin with rfl | ⟨g, hg, hag⟩
    · exact mem_nodes_self a
    · -- the child `g` of `p` that holds `a` holds `c` as well, and so is `c`
      have hcg := mem_nodes_trans hca hag
      have hp' := h.of_mem hp
      obtain rfl := hp'.eq_of_meets hg hc (Span.meets_of_covers ((hp'.child hg).covers hcg) hbyte)
      exact absurd (eq_of_mem_nodes hca hag) hne
  · have hmeets := Span.meets_of_covers ((h.of_mem ha).covers hca) hbyte
    exact absurd (hmeets.symm.of_covers ((h.of_mem hp).covers_child hc)) hapart.not_meets

/-- A node with a byte has one parent. -/
theorem parent_unique (h : n.IsNested) {p q c : Node} (hp : p ∈ n.nodes) (hq : q ∈ n.nodes) (hcp : c ∈ p.children)
    (hcq : c ∈ q.children) (hbyte : c.span.start < c.span.stop) : p = q := by
  have hne : ∀ {a : Node}, c ∈ a.children → c ≠ a := by
    rintro a hca rfl
    exact not_mem_nodes_of_child hca (mem_nodes_self c)
  exact eq_of_mem_nodes (h.parent_mem_nodes hp hq hcp (child_mem_nodes hcq) (hne hcq) hbyte)
    (h.parent_mem_nodes hq hp hcq (child_mem_nodes hcp) (hne hcp) hbyte)

/-- A walk meets a node with a byte once. -/
theorem visit_unique (h : n.IsNested) {v v' : Visit} (hv : v ∈ n.walk) (hv' : v' ∈ n.walk) (hnode : v.node = v'.node)
    (hbyte : v.node.span.start < v.node.span.stop) : v = v' := by
  obtain ⟨node, parent⟩ := v
  obtain ⟨node', parent'⟩ := v'
  obtain rfl : node = node' := hnode
  congr 1
  rcases mem_walk.1 hv with heq | ⟨p, hp, rfl, hchild⟩
  · cases heq
    rcases mem_walk.1 hv' with heq | ⟨p, hp, -, hchild⟩
    · cases heq
      rfl
    · exact absurd hp (not_mem_nodes_of_child hchild)
  · rcases mem_walk.1 hv' with heq | ⟨p', hp', rfl, hchild'⟩
    · cases heq
      exact absurd hp (not_mem_nodes_of_child hchild)
    · rw [h.parent_unique hp hp' hchild hchild' hbyte]

/-- Two leaves are the same or apart. -/
theorem eq_or_apart_of_leaves (h : n.IsNested) {a b : Node} (ha : a ∈ n.nodes) (hb : b ∈ n.nodes)
    (hleafa : a.children = []) (hleafb : b.children = []) : a = b ∨ a.span.Apart b.span := by
  rcases h.inside_or_apart ha hb with hin | hin | hapart
  · exact .inl (eq_of_mem_nodes_leaf hin hleafb)
  · exact .inl (eq_of_mem_nodes_leaf hin hleafa).symm
  · exact .inr hapart

end IsNested

/-! ### Full spans -/

/-- In the whole tree, full spans start no later than spans, those of children no earlier than those of their parents
and, comments apart, behind the children in front. -/
def IsPlaced (n : Node) : Prop :=
  ∀ m ∈ n.nodes, m.fullSpan.start ≤ m.span.start ∧ (∀ c ∈ m.children, m.fullSpan.start ≤ c.fullSpan.start) ∧
    m.children.Pairwise fun a b => a.kind = .comment ∨ a.span.stop ≤ b.fullSpan.start

/-- No comment holds another node. -/
def CommentsAreLeaves (n : Node) : Prop := ∀ m ∈ n.nodes, m.kind = .comment → m.children = []

instance (n : Node) : Decidable n.CommentsAreLeaves :=
  inferInstanceAs (Decidable (∀ m ∈ n.nodes, m.kind = .comment → m.children = []))

namespace IsPlaced

variable {n : Node}

theorem of_mem (h : n.IsPlaced) {m : Node} (hm : m ∈ n.nodes) : m.IsPlaced :=
  fun x hx => h x (mem_nodes_trans hx hm)

theorem start_le (h : n.IsPlaced) : n.fullSpan.start ≤ n.span.start := (h n (mem_nodes_self n)).1

theorem covers_span (h : n.IsPlaced) : n.fullSpan.covers n.span = true :=
  Span.covers_iff.2 ⟨h.start_le, Nat.le_refl _⟩

/-- Full spans of nodes lie inside those of the nodes around. -/
theorem covers_fullSpan (h : n.IsPlaced) (hn : n.IsNested) {m : Node} (hm : m ∈ n.nodes) :
    n.fullSpan.covers m.fullSpan = true := by
  have hstop : m.span.stop ≤ n.span.stop := (Span.covers_iff.1 (hn.covers hm)).2
  have hstart : n.fullSpan.start ≤ m.fullSpan.start := by
    induction n using Node.induction with
    | h label children ih =>
      rcases mem_nodes.1 hm with rfl | ⟨c, hc, hmc⟩
      · exact Nat.le_refl _
      · have h₁ := (h _ (mem_nodes_self _)).2.1 c hc
        have hc' := hn.child hc
        have h₂ := ih c hc (h.of_mem (child_mem_nodes hc)) hc' hmc (Span.covers_iff.1 (hc'.covers hmc)).2
        omega
  exact Span.covers_iff.2 ⟨hstart, hstop⟩

/-- Two nodes that are no comments stand one inside the other, or one stops before the full span of the other. -/
theorem inside_or_before (h : n.IsPlaced) (hn : n.IsNested) (hleaf : n.CommentsAreLeaves) {a b : Node}
    (ha : a ∈ n.nodes) (hb : b ∈ n.nodes) (hac : a.kind ≠ .comment) (hbc : b.kind ≠ .comment) :
    a ∈ b.nodes ∨ b ∈ a.nodes ∨ a.span.stop ≤ b.fullSpan.start ∨ b.span.stop ≤ a.fullSpan.start := by
  induction n using Node.induction with
  | h label children ih =>
    rcases mem_nodes.1 ha with rfl | ⟨c, hc, ha'⟩
    · exact .inr (.inl hb)
    rcases mem_nodes.1 hb with rfl | ⟨d, hd, hb'⟩
    · exact .inl ha
    have hc' := child_mem_nodes hc
    have hd' := child_mem_nodes hd
    -- a child that holds a node other than a comment is no comment
    have hcode : ∀ {x e : Node}, e ∈ (mk label children).nodes → x ∈ e.nodes → x.kind ≠ .comment →
        e.kind ≠ .comment := by
      intro x e he hx hxk hk
      rw [eq_of_mem_nodes_leaf hx (hleaf e he hk)] at hxk
      exact hxk hk
    -- a child in front stops before the full span of the child behind, and that of all nodes in it
    have hbefore : ∀ {x y e g : Node}, e ∈ (mk label children).nodes → g ∈ (mk label children).nodes →
        x ∈ e.nodes → y ∈ g.nodes → x.kind ≠ .comment →
        e.kind = .comment ∨ e.span.stop ≤ g.fullSpan.start → x.span.stop ≤ y.fullSpan.start := by
      intro x y e g he hg hx hy hxk hrel
      rcases hrel with hk | hrel
      · exact absurd hk (hcode he hx hxk)
      · have h₁ := Span.covers_iff.1 ((hn.of_mem he).covers hx)
        have h₂ := Span.covers_iff.1 ((h.of_mem hg).covers_fullSpan (hn.of_mem hg) hy)
        omega
    rcases eq_or_rel (h _ (mem_nodes_self _)).2.2 hc hd with rfl | hrel | hrel
    · exact ih c hc (h.of_mem hc') (hn.child hc) (fun m hm => hleaf m (mem_nodes_trans hm hc')) ha' hb'
    · exact .inr (.inr (.inl (hbefore hc' hd' ha' hb' hac hrel)))
    · exact .inr (.inr (.inr (hbefore hd' hc' hb' ha' hbc hrel)))

end IsPlaced

end Node

/-! ### Placing a bare tree -/

namespace BareNode

open place

@[simp] theorem kind_place (before : Nat) (n : BareNode) : (n.place before).kind = n.label.kind := by
  cases n; simp [place, Node.kind, Node.label, label]

@[simp] theorem span_place (before : Nat) (n : BareNode) : (n.place before).span = n.label.span := by
  cases n; simp [place, Node.span, Node.label, label]

theorem start_fullSpan_place (before : Nat) (n : BareNode) :
    (n.place before).fullSpan.start = min before n.label.span.start := by
  cases n; simp [place, Node.fullSpan, Node.label, label]

/-- Placed one behind the other, nodes in order get full spans in order, the first of which starts at `before`. -/
private theorem placeAll_before (before : Nat) (ns : List BareNode)
    (hpair : (placeAll before ns).Pairwise fun a b => a.span.stop ≤ b.span.start)
    (hstart : ∀ c ∈ placeAll before ns, before ≤ c.span.start ∧ c.span.start ≤ c.span.stop) :
    (∀ c ∈ placeAll before ns, before ≤ c.fullSpan.start) ∧
      (placeAll before ns).Pairwise fun a b => a.kind = .comment ∨ a.span.stop ≤ b.fullSpan.start := by
  induction ns generalizing before with
  | nil => simp [placeAll]
  | cons n ns ih =>
    simp only [placeAll, List.pairwise_cons, List.forall_mem_cons, span_place] at hpair hstart
    obtain ⟨hn, hrest⟩ := hstart
    obtain ⟨hfirst, hpair⟩ := hpair
    -- where the next node may start its full span
    have hlimit : before ≤ limitAfter before n := by
      unfold limitAfter
      split <;> omega
    have hnext : ∀ c ∈ placeAll (limitAfter before n) ns,
        limitAfter before n ≤ c.span.start ∧ c.span.start ≤ c.span.stop := by
      intro c hc
      have h₁ := hrest c hc
      have h₂ := hfirst c hc
      refine ⟨?_, h₁.2⟩
      unfold limitAfter
      split <;> omega
    obtain ⟨hfull, hbehind⟩ := ih (limitAfter before n) hpair hnext
    simp only [placeAll, List.pairwise_cons, List.forall_mem_cons, start_fullSpan_place, span_place, kind_place]
    refine ⟨⟨by omega, fun c hc => Nat.le_trans hlimit (hfull c hc)⟩, ?_, hbehind⟩
    intro c hc
    have hc' := hfull c hc
    unfold limitAfter at hc'
    split at hc'
    · rename_i hk
      exact .inl hk
    · exact .inr hc'

/-- A nested tree that was placed has its full spans in order. -/
theorem isPlaced_place : ∀ (n : BareNode) (before : Nat), (n.place before).IsNested → (n.place before).IsPlaced
  | mk label children, before, h => by
    have hself := Node.mem_nodes_self ((mk label children).place before)
    have hchildren : ((mk label children).place before).children =
        placeAll (min before label.span.start) children := by simp [place, Node.children]
    intro m hm
    rcases Node.mem_nodes.1 hm with rfl | ⟨c, hc, hmc⟩
    · have hfull := start_fullSpan_place before (mk label children)
      obtain ⟨-, hcovers, hpair⟩ := h _ hself
      rw [hchildren] at hcovers hpair ⊢
      have hstart : ∀ c ∈ placeAll (min before label.span.start) children,
          min before label.span.start ≤ c.span.start ∧ c.span.start ≤ c.span.stop := by
        intro c hc
        have h₁ := (Span.covers_iff.1 (hcovers c hc)).1
        rw [span_place] at h₁
        have h₂ := (h.child (hchildren ▸ hc)).start_le_stop
        refine ⟨?_, h₂⟩
        simp only [BareNode.label] at h₁
        omega
      obtain ⟨h₁, h₂⟩ := placeAll_before _ _ hpair hstart
      rw [hfull, span_place]
      exact ⟨Nat.min_le_right _ _, h₁, h₂⟩
    · exact isPlacedAll children (min before label.span.start) (fun d hd => h.child (hchildren ▸ hd)) c
        (hchildren ▸ hc) m hmc
where
  isPlacedAll : ∀ (ns : List BareNode) (before : Nat), (∀ c ∈ placeAll before ns, c.IsNested) →
      ∀ c ∈ placeAll before ns, c.IsPlaced
    | [], _, _ => by simp [placeAll]
    | n :: ns, before, h => by
      intro c hc
      simp only [placeAll, List.mem_cons] at hc
      simp only [placeAll, List.forall_mem_cons] at h
      rcases hc with rfl | hc
      · exact isPlaced_place n before h.1
      · exact isPlacedAll ns _ h.2 c hc

/-! ### Small trees

The trees of short texts, with their keywords and signs as the parser gives them. -/

/-- A named node without faults. -/
def regular (kind : Kind) (field : Option Field) (start stop : Nat) (children : List BareNode) : BareNode :=
  .mk ⟨kind, field, true, false, false, ⟨start, stop⟩⟩ children

/-- A keyword. The grammars name it by its text. -/
def token (kind : Kind) (field : Option Field) (start stop : Nat) : BareNode :=
  .mk ⟨kind, field, false, false, false, ⟨start, stop⟩⟩ []

def sign (text : String) (start : Nat) : BareNode := token (.other text) none start (start + 1)

def identifier (field : Option Field) (start stop : Nat) : BareNode := regular .identifier field start stop []

/-- A value with one digit. -/
def digit (start : Nat) : BareNode := regular (.other "number") (some .value) start (start + 1) []

def enclosed (opening closing : String) (kind : Kind) (field : Option Field) (start stop : Nat)
    (inside : List BareNode) : BareNode :=
  regular kind field start stop (sign opening start :: inside ++ [sign closing (stop - 1)])

def braced (kind : Kind) (field : Option Field) (start stop : Nat) (inside : List BareNode) : BareNode :=
  enclosed "\x7b" "\x7d" kind field start stop inside

def body (start stop : Nat) (inside : List BareNode) : BareNode :=
  braced .statementBlock (some .body) start stop inside

def parameters (start stop : Nat) (inside : List BareNode) : BareNode :=
  enclosed "(" ")" (.other "formal_parameters") (some .parameters) start stop inside

/-- Two nodes with `=` between them. -/
def assigned (kind : Kind) (left right : BareNode) : BareNode :=
  regular kind none left.label.span.start right.label.span.stop [left, sign "=" (left.label.span.stop + 1), right]

/-- A variable and its value. -/
def initialized (start nameStop : Nat) (value : BareNode) : BareNode :=
  assigned .variableDeclarator (identifier (some .name) start nameStop) value

def uninitialized (start stop : Nat) : BareNode :=
  regular .variableDeclarator none start stop [identifier (some .name) start stop]

def byVar (field : Option Field) (start stop : Nat) (declarators : List BareNode) : BareNode :=
  regular .variableDeclaration field start stop
    (token .varKeyword none start (start + 3) :: declarators ++ [sign ";" (stop - 1)])

def lexical (word : String) (start wordStop stop : Nat) (declarators : List BareNode) : BareNode :=
  regular .lexicalDeclaration none start stop
    (token (.other word) (some .kind) start wordStop :: declarators ++ [sign ";" (stop - 1)])

def byLet (start stop : Nat) (declarators : List BareNode) : BareNode :=
  lexical "let" start (start + 3) stop declarators

/-- A declaration of one variable, with one byte for the name and one digit for the value. -/
def oneByVar (field : Option Field) (start : Nat) : BareNode :=
  byVar field start (start + 10) [initialized (start + 4) (start + 5) (digit (start + 8))]

def oneByLet (start : Nat) : BareNode :=
  byLet start (start + 10) [initialized (start + 4) (start + 5) (digit (start + 8))]

def expression (inside : BareNode) : BareNode :=
  regular (.other "expression_statement") none inside.label.span.start (inside.label.span.stop + 1)
    [inside, sign ";" inside.label.span.stop]

/-- A call with a name as its only argument, as a statement. -/
def called (start nameStop stop : Nat) : BareNode :=
  expression <| regular (.other "call_expression") none start stop
    [identifier (some (.other "function")) start nameStop,
     enclosed "(" ")" (.other "arguments") (some (.other "arguments")) nameStop stop
      [identifier none (nameStop + 1) (stop - 1)]]

/-- A statement that returns the value of a name with one byte. -/
def returned (start : Nat) : BareNode :=
  regular (.other "return_statement") none start (start + 9)
    [token (.other "return") none start (start + 6), identifier none (start + 7) (start + 8), sign ";" (start + 8)]

/-- A function without a name and without parameters. -/
def unnamedFunction (field : Option Field) (start : Nat) (body : BareNode) : BareNode :=
  regular .functionExpression field start body.label.span.stop
    [token .functionKeyword none start (start + 8), parameters (start + 9) (start + 11) [], body]

/-- A class at the start of a text, with one empty method. A function with this body computes the name of the
method. -/
def classWithComputedName (body : BareNode) : BareNode :=
  let stop := body.label.span.stop
  regular .classDeclaration none 0 (stop + 8)
    [token .classKeyword none 0 5, identifier (some .name) 6 7,
     braced (.other "class_body") (some .body) 8 (stop + 8)
      [regular .methodDefinition (some (.other "member")) 10 (stop + 6)
        [enclosed "[" "]" .computedPropertyName (some .name) 10 (stop + 1) [unnamedFunction none 11 body],
         parameters (stop + 1) (stop + 3) [], .body (stop + 4) (stop + 6) []]]]

/-- An entry of a list of imports or exports, by its name. -/
def specifier (kind : Kind) (start stop : Nat) : BareNode :=
  regular kind none start stop [identifier (some .name) start stop]

/-- The clause `a, { b }`, at the start of a text. -/
def defaultAndList : BareNode :=
  regular .importClause none 7 15
    [identifier none 7 8, sign "," 8, braced .namedImports none 10 15 [specifier .importSpecifier 12 13]]

/-- An import at the start of a text, with this clause and one byte for the name of the module. -/
def importing (clause : BareNode) : BareNode :=
  let stop := clause.label.span.stop
  regular .importStatement none 0 (stop + 10)
    [token (.other "import") none 0 6, clause, token (.other "from") none (stop + 1) (stop + 5),
     enclosed "\"" "\"" .stringLiteral (some .source) (stop + 6) (stop + 9)
      [regular (.other "string_fragment") none (stop + 7) (stop + 8) []],
     sign ";" (stop + 9)]

/-- What is exported, with `export` in front of it. -/
def exporting (start stop : Nat) (inside : List BareNode) : BareNode :=
  regular .exportStatement none start stop (token (.other "export") none start (start + 6) :: inside)

/-- The export of one name. -/
def exportingName (start stop : Nat) : BareNode :=
  exporting start stop
    [braced .exportClause none (start + 7) (stop - 1) [specifier (.other "export_specifier") (start + 9) (stop - 3)],
     sign ";" (stop - 1)]

end BareNode

end ScriptTidy
