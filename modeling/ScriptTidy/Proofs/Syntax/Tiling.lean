import ScriptTidy.Proofs.Edit.Tiles
import ScriptTidy.Proofs.Syntax.FullSpans

/-!
# Full spans tile the text

In a nested tree that was built, the full spans of the children of a node that are no comments stand side by side from
where the full span of the node starts (`tile_place`). So deleting the full spans of some of them leaves those of the
others alone (`full_spans_tile`).
-/

namespace ScriptTidy

namespace Span

/-- Where spans end that tile the text behind `start`. -/
private theorem Tile.stop_eq {start stop : Nat} {spans : List Span} (h : Tile start spans stop) :
    stop = spans.getLast?.elim start (·.stop) := by
  induction h with
  | nil => rfl
  | @cons start stop span spans _ _ h ih =>
    rw [List.getLast?_cons, ih]
    cases spans.getLast? <;> rfl

end Span

namespace Node

/-- The children that are no comments. -/
def codeChildren (n : Node) : List Node := n.children.filter (·.kind ≠ .comment)

/-- Where the last child stops that is no comment. If there is none, where the full span of the node starts. -/
def codeStop (n : Node) : Nat := n.codeChildren.getLast?.elim n.fullSpan.start (·.span.stop)

end Node

namespace BareNode

open place

/-- Placed one behind the other, nodes in order that are no comments have full spans side by side. -/
private theorem tile_placeAll (before : Nat) (ns : List BareNode)
    (hpair : (placeAll before ns).Pairwise fun a b => a.span.stop ≤ b.span.start)
    (hstart : ∀ c ∈ placeAll before ns, before ≤ c.span.start ∧ c.span.start ≤ c.span.stop) :
    ∃ stop, Span.Tile before (((placeAll before ns).filter (·.kind ≠ .comment)).map Node.fullSpan) stop := by
  induction ns generalizing before with
  | nil => exact ⟨before, .nil before⟩
  | cons n ns ih =>
    simp only [placeAll, List.pairwise_cons, List.forall_mem_cons, span_place] at hpair hstart
    obtain ⟨hbehind, hpair⟩ := hpair
    obtain ⟨⟨hn, hle⟩, hrest⟩ := hstart
    by_cases hk : n.label.kind = .comment
    · -- a comment leaves the limit where it is
      rw [limitAfter, if_pos hk] at hpair hrest
      obtain ⟨stop, htile⟩ := ih before hpair hrest
      rw [placeAll, limitAfter, if_pos hk, List.filter_cons_of_neg (by simpa using hk)]
      exact ⟨stop, htile⟩
    · rw [limitAfter, if_neg hk] at hbehind hpair hrest
      obtain ⟨stop, htile⟩ := ih n.label.span.stop hpair fun c hc => ⟨hbehind c hc, (hrest c hc).2⟩
      rw [placeAll, limitAfter, if_neg hk, List.filter_cons_of_pos (by simpa using hk), List.map_cons]
      have hfirst : (n.place before).fullSpan.start = before := by rw [start_fullSpan_place, Nat.min_eq_left hn]
      have hlast : (n.place before).fullSpan.stop = n.label.span.stop := by rw [Node.stop_fullSpan, span_place]
      exact ⟨stop, .cons hfirst (by omega) (by rw [hlast]; exact htile)⟩

theorem tile_place (n : BareNode) (before : Nat) (h : (n.place before).IsNested) :
    Span.Tile (n.place before).fullSpan.start ((n.place before).codeChildren.map Node.fullSpan)
      (n.place before).codeStop := by
  have hle := (isPlaced_place n before h).start_le
  have hpair := h.pairwise_children
  have hstart : ∀ c ∈ (n.place before).children,
      (n.place before).fullSpan.start ≤ c.span.start ∧ c.span.start ≤ c.span.stop := by
    intro c hc
    have hcovers := (Span.covers_iff.1 (h.covers_child hc)).1
    exact ⟨Nat.le_trans hle hcovers, (h.child hc).start_le_stop⟩
  rw [children_place] at hpair hstart
  obtain ⟨stop, htile⟩ := tile_placeAll _ _ hpair hstart
  rw [← children_place] at htile
  have hstop : stop = (n.place before).codeStop := by
    rw [htile.stop_eq, List.getLast?_map, Node.codeStop, Node.codeChildren]
    cases ((n.place before).children.filter (·.kind ≠ .comment)).getLast? <;> rfl
  exact hstop ▸ htile

/-- In a nested tree that was built, full spans start no later than spans and lie inside those of the parents. The full
spans of a node's children that are no comments tile its own full span up to where the last of them stops: they are
apart and leave no gap. When some of these children are deleted from a text with their full spans, the full spans of all
others stay in the text, in order, and nothing else changes. -/
theorem full_spans_tile {root : BareNode} {n : Node} (hbuild : root.build = .ok n) (hnested : n.IsNested) :
    ∀ m ∈ n.nodes,
      m.fullSpan.start ≤ m.span.start ∧ (∀ c ∈ m.children, m.fullSpan.covers c.fullSpan = true) ∧
      Span.Tile m.fullSpan.start (m.codeChildren.map Node.fullSpan) m.codeStop ∧ m.codeStop ≤ m.fullSpan.stop ∧
      (m.codeChildren.Pairwise fun a b => a.fullSpan.stop ≤ b.fullSpan.start) ∧
      (∀ offset, m.fullSpan.start ≤ offset → offset < m.codeStop →
        ∃ c ∈ m.codeChildren, c.fullSpan.holds offset = true) ∧
      ∀ source, isBoundary source m.fullSpan.start = true →
        (∀ c ∈ m.codeChildren, isBoundary source c.fullSpan.stop = true) → ∀ goes : Node → Bool,
          ∃ set, EditSet.merge ((m.codeChildren.filter goes).map fun c => .delete c.fullSpan) = .ok set ∧
            set.apply source = .ok (slice source ⟨0, m.fullSpan.start⟩ ++
              String.join ((m.codeChildren.filter (!goes ·)).map fun c => slice source c.fullSpan) ++
              slice source ⟨m.codeStop, source.utf8ByteSize⟩) := by
  rw [build_eq] at hbuild
  split at hbuild
  · cases hbuild
  cases hbuild
  intro m hm
  obtain ⟨hle, hchildren, -⟩ := isPlaced_place root 0 hnested m hm
  have hm' := hnested.of_mem hm
  have hcovers : ∀ c ∈ m.children, m.fullSpan.covers c.fullSpan = true := fun c hc =>
    Span.covers_iff.2 ⟨hchildren c hc, (Span.covers_iff.1 (hm'.covers_child hc)).2⟩
  have htile : Span.Tile m.fullSpan.start (m.codeChildren.map Node.fullSpan) m.codeStop := by
    obtain ⟨n, limit, rfl⟩ := exists_place_of_mem hm
    exact tile_place n limit hm'
  have hstop : m.codeStop ≤ m.fullSpan.stop := by
    rw [Node.codeStop]
    cases hlast : m.codeChildren.getLast? with
    | none => exact Nat.le_trans hle hm'.start_le_stop
    | some last =>
      have hlast := (List.mem_filter.1 (List.mem_of_getLast? hlast)).1
      exact (Span.covers_iff.1 (hm'.covers_child hlast)).2
  refine ⟨hle, hcovers, htile, hstop, List.pairwise_map.1 htile.pairwise, fun offset hfrom hto => ?_,
    fun source hstart hboundary goes => EditSet.apply_of_tile goes htile hstart hboundary⟩
  obtain ⟨span, hspan, hholds⟩ := htile.exists_holds hfrom hto
  obtain ⟨c, hc, rfl⟩ := List.mem_map.1 hspan
  exact ⟨c, hc, hholds⟩

/-- Two declarations with a comment between them, in a program. -/
private def twoDeclarations : BareNode :=
  .regular .program none 0 26 [.oneByVar none 0, .regular .comment none 11 15 [], .oneByVar none 16]

/-- Deleting the first of two declarations leaves the other one with the comment in front of it. -/
theorem full_spans_tile_two_declarations :
    twoDeclarations.build = .ok (twoDeclarations.place 0) ∧ (twoDeclarations.place 0).IsNested ∧
      ∃ set, EditSet.merge [.delete ⟨0, 10⟩] = .ok set ∧
        set.apply "var a = 1; /**/ var b = 2;" = .ok " /**/ var b = 2;" := by
  have hbuild : twoDeclarations.build = .ok (twoDeclarations.place 0) := by
    rw [build_eq]
    rfl
  have hnested : (twoDeclarations.place 0).IsNested := by decide +kernel
  obtain ⟨-, -, -, -, -, -, hdelete⟩ :=
    full_spans_tile hbuild hnested (twoDeclarations.place 0) (Node.mem_nodes_self _)
  obtain ⟨set, hset, happly⟩ := hdelete "var a = 1; /**/ var b = 2;" (by decide +kernel) (by decide +kernel)
    fun c => c.span.start = 0
  exact ⟨hbuild, hnested, set, hset, happly.trans (by decide +kernel)⟩

end BareNode

end ScriptTidy
