import ScriptTidy.Proofs.Names.Exports

/-!
# The innermost region at an offset

The region found at an offset is the last in the outline that holds the offset (`ScopeTree.region_scopeAt`). It is the
innermost if the regions that hold the offset descend, each in front of those inside of it. One construct breaks that
order: the computed name of a method is read in front of the method's region, though it lies inside of it. Without a
region of such a name at the offset, the regions descend (`Reads.descend_outline`). With one, the method's region comes
later, and behind it only regions around the method hold the offset (`Reads.exists_behind`). So the region found is
around the method, and that in the name is missed. Together, that is the exact condition (`scopeAt_innermost_iff`).
-/

namespace ScriptTidy

open Outline.regions

/-! ### The regions that hold an offset -/

namespace Region

variable {offset : Nat} {rs ts : List Region} {r : Region}

private theorem mem_held : r ∈ held offset rs ↔ r ∈ rs ∧ r.span.holds offset = true := List.mem_filter

private theorem held_append (offset : Nat) (rs ts : List Region) :
    held offset (rs ++ ts) = held offset rs ++ held offset ts :=
  List.filter_append ..

private theorem held_eq_nil (h : ∀ r ∈ rs, ¬ r.span.holds offset = true) :
    held offset rs = [] :=
  List.filter_eq_nil_iff.2 h

/-- Of the regions that hold the offset, each covers those behind it. -/
def Descend (offset : Nat) (rs : List Region) : Prop :=
  (held offset rs).Pairwise fun outer inner => outer.span.covers inner.span = true

private theorem descend_append : Descend offset (rs ++ ts) ↔ Descend offset rs ∧ Descend offset ts ∧
    ∀ outer ∈ held offset rs, ∀ inner ∈ held offset ts, outer.span.covers inner.span = true := by
  unfold Descend
  rw [held_append, List.pairwise_append]

/-- A region that covers those behind it can be put in front of them. -/
theorem Descend.cons (h : Descend offset rs) (hr : ∀ inner ∈ rs, r.span.covers inner.span = true) :
    Descend offset (r :: rs) := by
  unfold Descend held
  rw [List.filter_cons]
  split
  · exact List.pairwise_cons.2 ⟨fun inner hinner => hr inner (mem_held.1 hinner).1, h⟩
  · exact h

/-- The last of descending regions lies inside of all. -/
private theorem Descend.covers_last (h : Descend offset rs) (hr : (held offset rs).getLast? = some r) :
    ∀ outer ∈ held offset rs, outer.span.covers r.span = true := by
  obtain ⟨front, hfront⟩ := List.getLast?_eq_some_iff.1 hr
  unfold Descend at h
  rw [hfront] at h ⊢
  intro outer houter
  rcases List.mem_append.1 houter with houter | houter
  · exact (List.pairwise_append.1 h).2.2 outer houter r (List.mem_singleton_self r)
  · rw [List.mem_singleton.1 houter]
    exact Span.covers_self _

/-- Where a region holds the offset, the last region that does is this one or stands behind it. -/
private theorem last_held_of_holds (h : r.span.holds offset = true) {last : Region}
    (hlast : (held offset (rs ++ r :: ts)).getLast? = some last) : last = r ∨ last ∈ held offset ts := by
  have hcons : held offset (r :: ts) = r :: held offset ts := List.filter_cons_of_pos h
  rw [held_append, hcons, List.getLast?_append, List.getLast?_cons, Option.some_or] at hlast
  cases hback : (held offset ts).getLast? with
  | none =>
    rw [hback] at hlast
    exact .inl (Option.some.inj hlast).symm
  | some s =>
    rw [hback] at hlast
    rw [← Option.some.inj hlast]
    exact .inr (List.mem_of_getLast? hback)

end Region

open Region (held mem_held Descend)

namespace Node

variable {n c : Node} {offset : Nat}

/-- Of several nodes in order, one at most holds the offset. So their regions descend if those of each node do. -/
private theorem descend_flatMap {cs : List Node} (hpair : cs.Pairwise fun a b => a.span.stop ≤ b.span.start)
    {regions : Node → List Region} (hinside : ∀ c ∈ cs, ∀ r ∈ regions c, c.span.covers r.span = true)
    (heach : ∀ c ∈ cs, Descend offset (regions c)) : Descend offset (cs.flatMap regions) := by
  unfold Descend held
  rw [List.filter_flatMap, List.pairwise_flatMap]
  refine ⟨heach, hpair.imp_of_mem fun {a b} ha hb hab x hx y hy => ?_⟩
  obtain ⟨hx, hxoffset⟩ := mem_held.1 hx
  obtain ⟨hy, hyoffset⟩ := mem_held.1 hy
  have hax := Span.covers_iff.1 (hinside a ha x hx)
  have hby := Span.covers_iff.1 (hinside b hb y hy)
  rw [Span.holds_iff] at hxoffset hyoffset
  omega

namespace IsNested

variable (h : n.IsNested)
include h

/-- The regions of a node descend if those of its children do, and if the regions in its computed name do and are around
the node. -/
theorem descend_outline (source : String) (r : Reading)
    (hname : Descend offset (regionsAll (n.outlineName source (r.settle n.kind))))
    (haround : ∀ region ∈ held offset (regionsAll (n.outlineName source (r.settle n.kind))),
      region.span.covers n.span = true)
    (hchildren : ∀ c ∈ n.children,
      Descend offset (regionsAll (outlineAs source ((r.settle n.kind).role source n) c))) :
    Descend offset (regionsAll (n.outline source r)) := by
  have hinside := h.regions_inside source r
  rw [regionsAll_outline, List.append_assoc] at hinside ⊢
  have hparts := descend_flatMap h.pairwise_children
    (fun c hc region hregion => (h.child hc).regionsAll_outlineAs_inside hregion) hchildren
  refine Region.descend_append.2 ⟨hname, ?_, fun outer houter inner hinner => ?_⟩
  · unfold Reading.ownRegion at hinside ⊢
    cases hkind : (r.settle n.kind).scopeKind? n.kind with
    | none => exact hparts
    | some k =>
      refine Descend.cons hparts fun inner hinner => hinside inner ?_
      rw [hkind]
      exact List.mem_append_right _ (List.mem_append_right _ hinner)
  · exact Span.covers_trans (haround outer houter)
      (hinside inner (List.mem_append_right _ (mem_held.1 hinner).1))

/-- Where a child holds the offset, nothing behind the child's regions does. -/
private theorem exists_behind_child (hc : c ∈ n.children) (hoffset : c.span.holds offset = true) (source : String)
    (role : Node → Option Reading) :
    ∃ front back, (n.children.flatMap fun d => regionsAll (outlineAs source role d)) =
      front ++ (regionsAll (outlineAs source role c) ++ back) ∧ held offset back = [] := by
  obtain ⟨before, behind, hsplit⟩ := List.append_of_mem hc
  have horder := h.pairwise_children
  rw [hsplit, List.pairwise_append, List.pairwise_cons] at horder
  refine ⟨before.flatMap fun d => regionsAll (outlineAs source role d),
    behind.flatMap fun d => regionsAll (outlineAs source role d), ?_, Region.held_eq_nil fun region hregion => ?_⟩
  · rw [hsplit, List.flatMap_append, List.flatMap_cons]
  · obtain ⟨d, hd, hregion⟩ := List.mem_flatMap.1 hregion
    have hcd := horder.2.1.1 d hd
    have hchild : d ∈ n.children := by simp [hsplit, hd]
    have hcovers := Span.covers_iff.1 ((h.child hchild).regionsAll_outlineAs_inside hregion)
    rw [Span.holds_iff] at hoffset ⊢
    omega

/-- Where the computed name of a method holds the offset, the method's region comes behind those of the name, and
nothing inside of it holds the offset. -/
private theorem exists_behind_name {reading : Reading} (hreads : (reading.settle n.kind).readsName n = true)
    (hname : n.childByField? .name = some c) (hoffset : c.span.holds offset = true) (source : String) :
    ∃ back, regionsAll (n.outline source reading) =
      regionsAll (c.outline source .code) ++ ⟨.function, n.span⟩ :: back ∧ held offset back = [] := by
  have hown : (reading.settle n.kind).ownRegion n = [⟨.function, n.span⟩] := by
    rw [Reading.ownRegion, Reading.scopeKind?_of_readsName hreads]
    rfl
  refine ⟨n.children.flatMap fun d => regionsAll (outlineAs source ((reading.settle n.kind).role source n) d), ?_,
    Region.held_eq_nil fun region hregion => ?_⟩
  · rw [regionsAll_outline, outlineName_of_readsName hreads hname, hown, List.append_assoc, List.singleton_append]
  · obtain ⟨d, hd, hregion⟩ := List.mem_flatMap.1 hregion
    rcases h.eq_or_apart (mem_children_of_field hname) hd with rfl | hapart
    · rw [outlineAs_of_readsName hreads hname] at hregion
      cases hregion
    · have hcovers := Span.covers_iff.1 ((h.child hd).regionsAll_outlineAs_inside hregion)
      rw [Span.holds_iff] at hoffset ⊢
      rcases hapart with hapart | hapart <;> omega

end IsNested

end Node

/-! ### Computed names -/

namespace Tree

variable {t : Tree} {kind : ScopeKind} {r : Reading} {n c : Node} {offset : Nat}

/-- The region stands in the computed name of the method. -/
def InComputedName (t : Tree) (n : Node) (region : Region) : Prop :=
  ∃ kind r c, t.Reads kind r n ∧ (r.settle n.kind).readsName n = true ∧ n.childByField? .name = some c ∧
    region ∈ regionsAll (c.outline t.source .code)

section

variable (hnested : t.root.IsNested)
  (hnames : ∀ n region, t.InComputedName n region → region.span.holds offset = true →
    region.span.covers n.span = true)
include hnested hnames

/-- Where no region of a computed name inside of its method holds the offset, the regions of every node descend. -/
theorem Reads.descend_outline (h : t.Reads kind r n) : Descend offset (regionsAll (n.outline t.source r)) := by
  induction n using Node.induction generalizing kind r with
  | h label children ih =>
    let n := Node.mk label children
    have hchildren : ∀ c ∈ n.children,
        Descend offset (regionsAll (Node.outlineAs t.source ((r.settle n.kind).role t.source n) c)) := by
      intro c hc
      unfold Node.outlineAs
      cases hrole : (r.settle n.kind).role t.source n c with
      | none => exact .nil
      | some r' => exact ih c hc (h.child hc hrole)
    have hn : n.IsNested := hnested.of_mem h.mem_nodes
    rcases n.outlineName_cases t.source (r.settle n.kind) with hnone | ⟨c, hreads, hc, hname⟩
    · refine hn.descend_outline t.source r ?_ ?_ hchildren
      · rw [hnone]
        exact .nil
      · rw [hnone]
        exact fun region hregion => nomatch hregion
    · refine hn.descend_outline t.source r ?_ ?_ hchildren
      · rw [hname]
        exact ih c (Node.mem_children_of_field hc) (h.name hreads hc)
      · rw [hname]
        intro region hregion
        obtain ⟨hregion, hoffset⟩ := mem_held.1 hregion
        exact hnames n region ⟨kind, r, c, h, hreads, hc, hregion⟩ hoffset

/-- Where no region of a computed name inside of its method holds the offset, the regions of the file descend. -/
private theorem descend_regions (hfull : t.root.fullSpan.covers t.root.span = true) :
    Descend offset t.outline.regions := by
  have hinside : ∀ c ∈ t.root.children, ∀ region ∈ regionsAll (c.outline t.source .code),
      c.span.covers region.span = true := fun c hc => (hnested.child hc).regions_inside t.source .code
  rw [regions_eq]
  refine .cons (Node.descend_flatMap hnested.pairwise_children hinside fun c hc => ?_) fun inner hinner => ?_
  · exact Reads.descend_outline hnested hnames (.top hc)
  · obtain ⟨c, hc, hinner⟩ := List.mem_flatMap.1 hinner
    exact Span.covers_trans hfull (Span.covers_trans (hnested.covers_child hc) (hinside c hc inner hinner))

end

/-- Behind the regions of a node that holds the offset, only regions around the node hold it. -/
theorem Reads.exists_behind (hnested : t.root.IsNested) (h : t.Reads kind r n) : n.span.holds offset = true →
    ∃ front back, t.outline.regions = front ++ (regionsAll (n.outline t.source r) ++ back) ∧
      ∀ region ∈ held offset back, region.span.covers n.span = true := by
  induction h with
  | @top c hc =>
    intro hoffset
    obtain ⟨front, back, hregions, hback⟩ := hnested.exists_behind_child hc hoffset t.source fun _ => some .code
    refine ⟨⟨.file, t.root.fullSpan⟩ :: front, back, ?_, ?_⟩
    · rw [regions_eq]
      exact congrArg _ hregions
    · rw [hback]
      exact fun region hregion => nomatch hregion
  | @child kind r r' n c hn hc hrole ih =>
    intro hoffset
    have hnode := hnested.of_mem hn.mem_nodes
    obtain ⟨front, back, hregions, hback⟩ := ih (Span.holds_of_covers (hnode.covers_child hc) hoffset)
    obtain ⟨front', back', hparts, hback'⟩ :=
      hnode.exists_behind_child hc hoffset t.source ((r.settle n.kind).role t.source n)
    rw [Node.outlineAs, hrole, Option.map_some, Option.getD_some] at hparts
    refine ⟨front ++ (regionsAll (n.outlineName t.source (r.settle n.kind)) ++ (r.settle n.kind).ownRegion n ++ front'),
      back' ++ back, ?_, ?_⟩
    · rw [hregions, Node.regionsAll_outline, hparts]
      simp only [List.append_assoc]
    · rw [Region.held_append, hback', List.nil_append]
      exact fun region hregion => Span.covers_trans (hback region hregion) (hnode.covers_child hc)
  | @name kind r n c hn hreads hc ih =>
    intro hoffset
    have hnode := hnested.of_mem hn.mem_nodes
    have hchild := Node.mem_children_of_field hc
    obtain ⟨front, back, hregions, hback⟩ := ih (Span.holds_of_covers (hnode.covers_child hchild) hoffset)
    obtain ⟨back', hparts, hback'⟩ := hnode.exists_behind_name hreads hc hoffset t.source
    refine ⟨front, ⟨.function, n.span⟩ :: back' ++ back, ?_, fun region hregion => ?_⟩
    · rw [hregions, hparts, List.append_assoc]
    · rw [Region.held_append, List.mem_append, mem_held, List.mem_cons] at hregion
      rcases hregion with ⟨rfl | hregion, hholds⟩ | hregion
      · exact hnode.covers_child hchild
      · have hnone := mem_held.2 ⟨hregion, hholds⟩
        rw [hback'] at hnone
        cases hnone
      · exact Span.covers_trans (hback region hregion) (hnode.covers_child hchild)

/-- A region in a computed name stands in front of the method's region. Behind that, only regions around the method hold
the offset of the region in the name. -/
theorem InComputedName.exists_behind (hnested : t.root.IsNested) {region : Region} (h : t.InComputedName n region)
    (hoffset : region.span.holds offset = true) :
    ∃ front back, t.outline.regions = front ++ ⟨.function, n.span⟩ :: back ∧ region ∈ front ∧
      n.span.holds offset = true ∧ ∀ later ∈ held offset back, later.span.covers n.span = true := by
  obtain ⟨kind, r, c, hn, hreads, hc, hregion⟩ := h
  have hnode := hnested.of_mem hn.mem_nodes
  have hchild := Node.mem_children_of_field hc
  have hname : c.span.holds offset = true :=
    Span.holds_of_covers ((hnode.child hchild).regions_inside t.source .code region hregion) hoffset
  have hmethod := Span.holds_of_covers (hnode.covers_child hchild) hname
  obtain ⟨front, back, hregions, hback⟩ := hn.exists_behind hnested hmethod
  obtain ⟨back', hparts, hback'⟩ := hnode.exists_behind_name hreads hc hname t.source
  refine ⟨front ++ regionsAll (c.outline t.source .code), back' ++ back, ?_, List.mem_append_right _ hregion, hmethod,
    ?_⟩
  · rw [hregions, hparts]
    simp only [List.append_assoc, List.cons_append]
  · rw [Region.held_append, hback', List.nil_append]
    exact hback

end Tree

namespace ScopeTree

variable {t : Tree} {offset : Nat}

private theorem mem_regions {region : Region} :
    region ∈ t.outline.regions ↔ ∃ s ∈ (ofTree t).scopes, s.region = region := by
  simp [regions_ofTree]

/-- The file's region holds every offset of the file, and so does the region found there. -/
private theorem exists_region_scopeAt (hoffset : t.root.fullSpan.holds offset = true) :
    ∃ s, (ofTree t).scopes[(ofTree t).scopeAt offset]? = some s ∧
      (held offset t.outline.regions).getLast? = some s.region := by
  obtain ⟨s, hs, hregion⟩ := Option.map_eq_some_iff.1 (region_scopeAt t offset)
  refine ⟨s, hs, ?_⟩
  have hfile : (⟨.file, t.root.fullSpan⟩ : Region) ∈ held offset t.outline.regions := by
    rw [Tree.regions_eq]
    exact mem_held.2 ⟨List.mem_cons_self, hoffset⟩
  cases hlast : (held offset t.outline.regions).getLast? with
  | none =>
    rw [List.getLast?_eq_none_iff.1 hlast] at hfile
    cases hfile
  | some r => rw [hregion, hlast, Option.getD_some]

/-- The region found at an offset of the file holds the offset. It is the innermost that does exactly if none of them
stands in the computed name of a method without being around the whole method. -/
theorem scopeAt_innermost_iff (hnested : t.root.IsNested) (hfull : t.root.fullSpan.covers t.root.span = true)
    (hoffset : t.root.fullSpan.holds offset = true) :
    ∃ s, (ofTree t).scopes[(ofTree t).scopeAt offset]? = some s ∧ s.span.holds offset = true ∧
      ((∀ other ∈ (ofTree t).scopes, other.span.holds offset = true → other.span.covers s.span = true) ↔
        ∀ n region, t.InComputedName n region → region.span.holds offset = true →
          region.span.covers n.span = true) := by
  obtain ⟨s, hs, hlast⟩ := exists_region_scopeAt hoffset
  refine ⟨s, hs, (mem_held.1 (List.mem_of_getLast? hlast)).2, fun hinnermost => ?_, fun hnames => ?_⟩
  · intro n region hin hholds
    obtain ⟨front, back, hregions, hfront, hmethod, hback⟩ := hin.exists_behind hnested hholds
    rw [hregions] at hlast
    -- the region found is the method's own or a later one, and not the one in the name
    have haround : s.span.covers n.span = true := by
      rcases Region.last_held_of_holds hmethod hlast with hmine | hlater
      · rw [show s.span = n.span from congrArg Region.span hmine]
        exact Span.covers_self _
      · exact hback _ hlater
    have hregion : region ∈ t.outline.regions := by simp [hregions, hfront]
    obtain ⟨other, hother, rfl⟩ := mem_regions.1 hregion
    exact Span.covers_trans (hinnermost other hother hholds) haround
  · intro other hother hholds
    have hregion : other.region ∈ t.outline.regions := mem_regions.2 ⟨other, hother, rfl⟩
    exact (Tree.descend_regions hnested hnames hfull).covers_last hlast _ (mem_held.2 ⟨hregion, hholds⟩)

end ScopeTree

/-! ### A function in a computed name -/

/-- A class with one method, whose name a function computes. -/
def computedMethod : BareNode :=
  .regular .program none 0 33 [.classWithComputedName (.body 23 25 [])]

def computedTree : Tree := ⟨computedMethod.place 0, "class A \x7b [function () \x7b\x7d]() \x7b\x7d \x7d", .javascript⟩

namespace ScopeTree

/-- In the body of the method, the method's region is found. -/
theorem scopeAt_innermost_in_method :
    let t := computedTree
    t.root.IsNested ∧ t.root.fullSpan.covers t.root.span = true ∧ t.root.fullSpan.holds 30 = true ∧
    ∃ s, (ofTree t).scopes[(ofTree t).scopeAt 30]? = some s ∧ s.span.holds 30 = true ∧
      ∀ other ∈ (ofTree t).scopes, other.span.holds 30 = true → other.span.covers s.span = true := by
  intro t
  have hnested : t.root.IsNested := by decide +kernel
  have hfull : t.root.fullSpan.covers t.root.span = true := by decide +kernel
  have hoffset : t.root.fullSpan.holds 30 = true := by decide +kernel
  have hnames : ∀ n ∈ t.root.nodes, ∀ c ∈ n.childByField? .name, ∀ region ∈ regionsAll (c.outline t.source .code),
      ¬ region.span.holds 30 = true := by decide +kernel
  obtain ⟨s, hs, hholds, hinnermost⟩ := scopeAt_innermost_iff hnested hfull hoffset
  refine ⟨hnested, hfull, hoffset, s, hs, hholds, hinnermost.2 ?_⟩
  rintro n region ⟨kind, r, c, hn, -, hc, hregion⟩ hregionoffset
  exact absurd hregionoffset (hnames n hn.mem_nodes c hc region hregion)

/-- In the body of the function that computes the name, the method's region is found as well, though the function's lies
inside of it. -/
theorem scopeAt_misses_computed_name :
    let t := computedTree
    t.root.IsNested ∧ t.root.fullSpan.covers t.root.span = true ∧ t.root.fullSpan.holds 24 = true ∧
    ¬ ∃ s, (ofTree t).scopes[(ofTree t).scopeAt 24]? = some s ∧ s.span.holds 24 = true ∧
      ∀ other ∈ (ofTree t).scopes, other.span.holds 24 = true → other.span.covers s.span = true := by
  intro t
  refine ⟨by decide +kernel, by decide +kernel, by decide +kernel, ?_⟩
  rintro ⟨s, hs, -, hinnermost⟩
  have hfound : (ofTree t).scopes[(ofTree t).scopeAt 24]?.map (·.span) = some ⟨10, 31⟩ := by decide +kernel
  have hspan : s.span = ⟨10, 31⟩ := by
    rw [hs] at hfound
    exact Option.some.inj hfound
  -- the region of the function in the name
  obtain ⟨other, hother, hother'⟩ : ∃ other ∈ (ofTree t).scopes, other.span = ⟨11, 25⟩ := by decide +kernel
  have hcovers := hinnermost other hother (by rw [hother']; rfl)
  rw [hother', hspan] at hcovers
  cases hcovers

end ScopeTree

end ScriptTidy
