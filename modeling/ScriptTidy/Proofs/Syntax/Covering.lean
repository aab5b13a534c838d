import ScriptTidy.Proofs.Syntax.Nesting

/-!
# The smallest node that covers a span

The search for the smallest node that covers a span goes down to the first child that covers it, and on from there,
without a look at the other children. In a nested tree nothing is missed by that: of the children, only one can cover a
span with a byte (`IsNested.eq_of_covers`). So the node that is found stands inside of every node that covers the span
(`IsNested.descend_mem_nodes`), however many nodes of one span there are on the way.
-/

namespace ScriptTidy

namespace Node

variable {n a b : Node} {target : Span}

private theorem descendFirst_eq (target : Span) (ns : List Node) :
    descend.descendFirst target ns = (ns.find? (·.span.covers target)).map (descend target) := by
  induction ns with
  | nil => rfl
  | cons n ns ih =>
    rw [descend.descendFirst, List.find?_cons]
    cases n.span.covers target with
    | true => rfl
    | false => exact ih

/-- The search stops at a node none of whose children covers the span, and otherwise goes on in one that does. -/
private theorem descend_cases (target : Span) (n : Node) :
    (n.descend target = n ∧ ∀ c ∈ n.children, ¬ c.span.covers target = true) ∨
      ∃ c ∈ n.children, c.span.covers target = true ∧ n.descend target = c.descend target := by
  cases n with
  | mk label children =>
    rw [descend, descendFirst_eq]
    cases hfind : children.find? (·.span.covers target) with
    | none => exact .inl ⟨rfl, by simpa [Node.children] using hfind⟩
    | some c =>
      exact .inr ⟨c, List.mem_of_find?_eq_some hfind, by simpa using List.find?_some hfind, rfl⟩

/-- The search never leaves the tree. -/
private theorem descend_mem (target : Span) (n : Node) : n.descend target ∈ n.nodes := by
  induction n using Node.induction with
  | h label children ih =>
    rcases descend_cases target (mk label children) with ⟨hself, -⟩ | ⟨c, hc, -, hdescend⟩
    · rw [hself]
      exact mem_nodes_self _
    · rw [hdescend]
      exact mem_nodes_of_child hc (ih c hc)

/-- The search never leaves the nodes that cover the span. -/
private theorem covers_descend (h : n.span.covers target = true) : (n.descend target).span.covers target = true := by
  induction n using Node.induction with
  | h label children ih =>
    rcases descend_cases target (mk label children) with ⟨hself, -⟩ | ⟨c, hc, hcovers, hdescend⟩
    · rwa [hself]
    · rw [hdescend]
      exact ih c hc hcovers

namespace IsNested

/-- Two children that cover a span with a byte are the same. -/
theorem eq_of_covers (h : n.IsNested) (ha : a ∈ n.children) (hb : b ∈ n.children) (hbyte : target.start < target.stop)
    (ha' : a.span.covers target = true) (hb' : b.span.covers target = true) : a = b := by
  have hmeets : target.Meets b.span := (Span.meets_of_covers hb' hbyte).symm
  exact h.eq_of_meets ha hb (hmeets.of_covers ha')

/-- The search arrives inside of every node that covers the span. -/
theorem descend_mem_nodes (h : n.IsNested) (hbyte : target.start < target.stop) (ha : a ∈ n.nodes)
    (hcovers : a.span.covers target = true) : n.descend target ∈ a.nodes := by
  induction n using Node.induction with
  | h label children ih =>
    rcases mem_nodes.1 ha with rfl | ⟨c, hc, ha⟩
    · exact descend_mem target _
    -- the child around `a` covers the span as well, and so it is the one in which the search goes on
    have hc' := Span.covers_trans ((h.child hc).covers ha) hcovers
    rcases descend_cases target (mk label children) with ⟨-, hnone⟩ | ⟨d, hd, hd', hdescend⟩
    · exact absurd hc' (hnone c hc)
    · obtain rfl := h.eq_of_covers hc hd hbyte hc' hd'
      rw [hdescend]
      exact ih c hc (h.child hc) ha

end IsNested

private theorem smallestCovering?_eq_none_iff : n.smallestCovering? target = none ↔ n.span.covers target = false := by
  unfold smallestCovering?
  cases n.span.covers target <;> simp

/-- For a span with a byte, the search in a nested tree fails exactly if the whole tree does not cover the span.
Otherwise it finds a node that covers the span, and the nodes that cover the span are that node and those around it. -/
theorem smallest_covering_is_innermost (n : Node) (target : Span) (h : n.IsNested)
    (hbyte : target.start < target.stop) :
    (n.smallestCovering? target = none ↔ n.span.covers target = false) ∧
    (n.span.covers target = true → ∃ m ∈ n.nodes, n.smallestCovering? target = some m ∧
      m.span.covers target = true ∧ ∀ a ∈ n.nodes, a.span.covers target = true ↔ m ∈ a.nodes) := by
  refine ⟨smallestCovering?_eq_none_iff, fun hroot => ?_⟩
  have hfound := covers_descend hroot
  refine ⟨n.descend target, descend_mem target n, by rw [smallestCovering?, if_pos hroot], hfound, fun a ha => ?_⟩
  constructor
  · exact h.descend_mem_nodes hbyte ha
  · exact fun hin => Span.covers_trans ((h.of_mem ha).covers hin) hfound

/-- A tree with nodes of one span inside each other, and with nodes without bytes beside those that are searched. -/
def stacked : Node :=
  BareNode.place 0 <| .regular .program none 0 6
    [.regular (.other "expression_statement") none 0 6
      [.regular (.other "binary_expression") none 0 6
        [.identifier (some .left) 0 2, .identifier none 2 2, .identifier (some (.other "right")) 2 6]]]

/-- The search goes through three nodes of one span, and past two children that stand in front. -/
theorem smallest_covering_is_innermost_stacked :
    stacked.IsNested ∧ ∃ m ∈ stacked.nodes, stacked.smallestCovering? ⟨2, 4⟩ = some m ∧ m.span = ⟨2, 6⟩ ∧
      ∀ a ∈ stacked.nodes, a.span.covers ⟨2, 4⟩ = true ↔ m ∈ a.nodes := by
  have hnested : stacked.IsNested := by decide +kernel
  obtain ⟨m, hm, hfound, -, hiff⟩ := (smallest_covering_is_innermost stacked ⟨2, 4⟩ hnested (by decide)).2 rfl
  have hspan : (stacked.smallestCovering? ⟨2, 4⟩).map (·.span) = some ⟨2, 6⟩ := by decide +kernel
  rw [hfound] at hspan
  exact ⟨hnested, m, hm, hfound, Option.some.inj hspan, hiff⟩

end Node

end ScriptTidy
