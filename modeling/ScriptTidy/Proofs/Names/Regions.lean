import Mathlib.Data.List.Find
import Mathlib.Data.List.Induction
import ScriptTidy.Proofs.Names.Resolution
import ScriptTidy.Proofs.Syntax.Nesting

/-!
# The region at an offset

A scope tree finds the region at an offset by its number: the last region that holds the offset. `Region.kindAt` reads
the same off the list of the regions of an outline, going through it from the front (`isFunctionLikeAt_eq`). The
regions of a node's outline lie inside the node (`regions_inside`), so that inside of a node only its own regions count
(`kindAt_child`), when the node's region is already open.
-/

namespace ScriptTidy

/-! ### The parts of a node's outline -/

namespace Node

/-- The outline of a child in the role that it has, if it has one. -/
def outlineAs (source : String) (role : Node → Option Reading) (c : Node) : List Outline :=
  ((role c).map fun r => c.outline source r).getD []

theorem outlineAll_eq_flatMap (source : String) (role : Node → Option Reading) (cs : List Node) :
    outline.outlineAll source role cs = cs.flatMap (outlineAs source role) := by
  induction cs with
  | nil => rfl
  | cons c cs ih =>
    unfold outline.outlineAll
    rw [List.flatMap_cons, outlineAs, ih]
    cases role c <;> rfl

private theorem outlineFirst_eq (source : String) (cs : List Node) :
    outline.outlineFirst source cs =
      ((cs.find? (·.field = some .name)).map fun c => c.outline source .code).getD [] := by
  induction cs with
  | nil => rfl
  | cons c cs ih =>
    unfold outline.outlineFirst
    rw [List.find?_cons, ih]
    by_cases h : c.field = some .name <;> simp [h]

/-- What the computed name of a method adds in front of the method's region. -/
def outlineName (source : String) (r : Reading) (n : Node) : List Outline :=
  if r.readsName n then ((n.childByField? .name).map fun c => c.outline source .code).getD [] else []

/-- What stands in the region of a node, or, where it opens none, in the region around it. -/
def outlineParts (source : String) (r : Reading) (n : Node) : List Outline :=
  r.opening source n ++ n.children.flatMap (outlineAs source (r.role source n))

theorem outline_eq (source : String) (reading : Reading) (n : Node) :
    n.outline source reading = reading.stamp
      ((reading.settle n.kind).preamble source n ++ n.outlineName source (reading.settle n.kind) ++
        (reading.settle n.kind).enclose n (n.outlineParts source (reading.settle n.kind))) := by
  cases n with
  | mk label children =>
    rw [outline, outlineAll_eq_flatMap, outlineFirst_eq]
    rfl

end Node

/-! ### Regions of an outline -/

/-- A region by its kind and span. -/
structure Region where
  kind : ScopeKind
  span : Span
  deriving DecidableEq, Repr

/-- The regions of an outline, each in front of those inside of it. -/
def Outline.regions : Outline → List Region
  | declare _ _ _ => []
  | refer _ _ => []
  | scope kind span parts => ⟨kind, span⟩ :: regionsAll parts
  | exported parts => regionsAll parts
where
  regionsAll : List Outline → List Region
    | [] => []
    | o :: os => o.regions ++ regionsAll os

namespace Outline

open regions

@[simp] theorem regionsAll_nil : regionsAll [] = [] := rfl

@[simp] theorem regionsAll_append (os ps : List Outline) : regionsAll (os ++ ps) = regionsAll os ++ regionsAll ps := by
  induction os with
  | nil => rfl
  | cons o os ih => simp [regionsAll, ih]

private theorem regionsAll_flatMap {α : Type} (xs : List α) (f : α → List Outline) :
    regionsAll (xs.flatMap f) = xs.flatMap fun x => regionsAll (f x) := by
  induction xs with
  | nil => rfl
  | cons x xs ih => simp [List.flatMap_cons, ih]

@[simp] theorem regionsAll_declareNode (source : String) (kind : BindingKind) (form : Form) (n : Node) :
    regionsAll (declareNode source kind form n) = [] := by
  unfold declareNode
  split <;> rfl

@[simp] theorem regionsAll_referNode (source : String) (form : Form) (n : Node) :
    regionsAll (referNode source form n) = [] := by
  unfold referNode
  split <;> rfl

@[simp] theorem regionsAll_stamp (r : Reading) (parts : List Outline) :
    regionsAll (r.stamp parts) = regionsAll parts := by
  unfold Reading.stamp
  split <;> simp [regionsAll, regions]

private theorem regionsAll_getD_map (source : String) (kind : BindingKind) (form : Form) (n? : Option Node) :
    regionsAll ((n?.map (declareNode source kind form)).getD []) = [] := by
  cases n? <;> simp

@[simp] theorem regionsAll_preamble (source : String) (r : Reading) (n : Node) :
    regionsAll (r.preamble source n) = [] := by
  unfold Reading.preamble
  split <;> simp [regionsAll_getD_map]

/-- What a node adds by itself opens no region. -/
@[simp] theorem regionsAll_opening (source : String) (r : Reading) (n : Node) :
    regionsAll (r.opening source n) = [] := by
  have hexported : ∀ c, regionsAll (Reading.exportedBy source c) = [] := by
    intro c
    unfold Reading.exportedBy
    repeat' split
    all_goals simp
  unfold Reading.opening
  repeat' split
  all_goals simp [regionsAll_getD_map, regionsAll_flatMap, hexported]

end Outline

namespace Region

/-- The kind of the last region that holds the offset, or `outer` if none does. -/
def kindAt (outer : ScopeKind) (offset : Nat) : List Region → ScopeKind
  | [] => outer
  | r :: rs => kindAt (if r.span.holds offset then r.kind else outer) offset rs

private theorem kindAt_append (outer : ScopeKind) (offset : Nat) (rs ts : List Region) :
    kindAt outer offset (rs ++ ts) = kindAt (kindAt outer offset rs) offset ts := by
  induction rs generalizing outer with
  | nil => rfl
  | cons r rs ih => simp [kindAt, ih]

theorem kindAt_of_not_holds {outer : ScopeKind} {offset : Nat} {rs : List Region}
    (h : ∀ r ∈ rs, ¬ r.span.holds offset = true) : kindAt outer offset rs = outer := by
  induction rs with
  | nil => rfl
  | cons r rs ih =>
    rw [kindAt, if_neg (h r (by simp))]
    exact ih fun t ht => h t (by simp [ht])

/-- The regions that hold the offset, in their order. -/
def held (offset : Nat) (rs : List Region) : List Region := rs.filter fun r => r.span.holds offset

private theorem kindAt_eq_getLast? (outer : ScopeKind) (offset : Nat) (rs : List Region) :
    kindAt outer offset rs = ((held offset rs).getLast?.map (·.kind)).getD outer := by
  induction rs generalizing outer with
  | nil => rfl
  | cons r rs ih =>
    rw [kindAt, ih, held, held, List.filter_cons]
    cases r.span.holds offset with
    | false => rfl
    | true =>
      rw [if_pos rfl, if_pos rfl, List.getLast?_cons]
      cases (rs.filter fun r => r.span.holds offset).getLast? <;> rfl

end Region

/-! ### Regions of a record -/

def Frame.region (f : Frame) : Region := ⟨f.kind, f.span⟩

def Scope.region (s : Scope) : Region := ⟨s.kind, s.span⟩

namespace ScopeRecord

/-- The regions by their numbers. -/
def regions (d : ScopeRecord) : List Region := d.frames.map Frame.region

/-- Reading an outline adds its regions. -/
private theorem regions_record : ∀ (o : Outline) (opened : List Nat) (d : ScopeRecord),
    (o.record opened d).regions = d.regions ++ o.regions
  | .declare kind name site, opened, d => by simp [Outline.record, regions, Outline.regions]
  | .refer name site, opened, d => by simp [Outline.record, regions, Outline.regions]
  | .scope kind span parts, opened, d => by
    rw [Outline.record, regions_recordAll]
    simp [regions, Outline.regions, Frame.region]
  | .exported parts, opened, d => by
    have h := regions_recordAll parts opened d
    rw [Outline.record, regions, frames_markExported]
    exact h
where
  regions_recordAll : ∀ (os : List Outline) (opened : List Nat) (d : ScopeRecord),
      (Outline.record.recordAll opened os d).regions = d.regions ++ Outline.regions.regionsAll os
    | [], _, d => by simp [Outline.record.recordAll]
    | o :: os, opened, d => by
      rw [Outline.record.recordAll, regions_recordAll, regions_record, Outline.regions.regionsAll, List.append_assoc]

private theorem getElem?_regions (d : ScopeRecord) (id : Nat) :
    d.regions[id]? = d.scopes[id]?.map Scope.region := by
  simp only [regions, List.getElem?_map, getElem?_frames, Option.map_map]
  rfl

/-- The innermost open region is of the kind given. -/
def IsInside (d : ScopeRecord) (kind : ScopeKind) (opened : List Nat) : Prop :=
  ∃ id rest r, opened = id :: rest ∧ d.regions[id]? = some r ∧ r.kind = kind

namespace IsInside

theorem record {d : ScopeRecord} {kind : ScopeKind} {opened : List Nat} (h : d.IsInside kind opened) (o : Outline) :
    (o.record opened d).IsInside kind opened := by
  obtain ⟨id, rest, r, rfl, hr, hkind⟩ := h
  refine ⟨id, rest, r, rfl, ?_, hkind⟩
  rw [regions_record, List.getElem?_append_left (List.getElem?_eq_some_iff.1 hr).1]
  exact hr

theorem recordAll {d : ScopeRecord} {kind : ScopeKind} {opened : List Nat} (h : d.IsInside kind opened)
    (os : List Outline) : (Outline.record.recordAll opened os d).IsInside kind opened := by
  induction os generalizing d with
  | nil => exact h
  | cons o os ih => exact ih (h.record o)

theorem openScope (d : ScopeRecord) (opened : List Nat) (kind : ScopeKind) (span : Span) :
    (d.openScope opened kind span).IsInside kind (d.scopes.size :: opened) := by
  refine ⟨_, _, ⟨kind, span⟩, rfl, ?_, rfl⟩
  rw [getElem?_regions]
  simp [ScopeRecord.openScope, Scope.region]

/-- A declaration belongs to the innermost open region, unless it is made by `var` outside of a function and the
file. -/
theorem home_eq {d : ScopeRecord} {kind : ScopeKind} {opened : List Nat} (h : d.IsInside kind opened)
    (how : BindingKind) (hkind : how = .varName → kind.isFunctionLike = true) : d.home opened how = current opened := by
  obtain ⟨id, rest, r, rfl, hr, rfl⟩ := h
  unfold home
  split
  · rename_i hvar
    rw [getElem?_regions] at hr
    obtain ⟨s, hs, rfl⟩ := Option.map_eq_some_iff.1 hr
    have hfound : d.scopes[id]?.any (·.kind.isFunctionLike) = true := by
      rw [hs]
      exact hkind hvar
    simp [hoistTarget, hfound, current]
  · rfl

end IsInside

end ScopeRecord

/-- Searched by numbers from the back, the last member with a property is found. -/
private theorem find?_numbers_reverse {α : Type} (q : α → Bool) (xs : List α) :
    ((List.range xs.length).reverse.find? fun id => xs[id]?.any q).bind (xs[·]?) = (xs.filter q).getLast? := by
  induction xs using List.reverseRecOn with
  | nil => rfl
  | append_singleton xs x ih =>
    have hlast : (xs ++ [x])[xs.length]? = some x := by simp
    have hfront : ∀ id < xs.length, (xs ++ [x])[id]? = xs[id]? := fun _ hid => List.getElem?_append_left hid
    rw [List.length_append, List.length_singleton, List.range_succ, List.reverse_append, List.reverse_singleton,
      List.singleton_append, List.find?_cons, hlast, Option.any_some]
    cases hx : q x with
    | true => simp [hx]
    | false =>
      have hsame : (List.range xs.length).reverse.find? (fun id => (xs ++ [x])[id]?.any q) =
          (List.range xs.length).reverse.find? fun id => xs[id]?.any q := by
        refine List.find?_congr fun id hid => ?_
        rw [hfront id (List.mem_range.1 (List.mem_reverse.1 hid))]
      have hskip : (xs ++ [x]).filter q = xs.filter q := by simp [hx]
      rw [hsame, hskip, ← ih]
      cases hfind : (List.range xs.length).reverse.find? fun id => xs[id]?.any q with
      | none => rfl
      | some id => exact hfront id (List.mem_range.1 (List.mem_reverse.1 (List.mem_of_find?_eq_some hfind)))

namespace ScopeTree

theorem regions_ofTree (t : Tree) : t.outline.regions = (ofTree t).scopes.toList.map Scope.region := by
  have hrecord : (t.outline.record [] .empty).regions = t.outline.regions := by
    rw [ScopeRecord.regions_record]
    rfl
  rw [← hrecord]
  refine List.ext_getElem? fun id => ?_
  rw [ScopeRecord.getElem?_regions, List.getElem?_map, Array.getElem?_toList]
  rfl

private theorem getElem?_regions (t : Tree) (id : Nat) :
    t.outline.regions[id]? = (ofTree t).scopes[id]?.map Scope.region := by
  rw [regions_ofTree, List.getElem?_map, Array.getElem?_toList]

/-- The region found at an offset is the last that holds it, or else that of the file. -/
theorem region_scopeAt (t : Tree) (offset : Nat) :
    (ofTree t).scopes[(ofTree t).scopeAt offset]?.map Scope.region =
      some ((Region.held offset t.outline.regions).getLast?.getD ⟨.file, t.root.fullSpan⟩) := by
  have hsize : (ofTree t).scopes.size = t.outline.regions.length := by simp [regions_ofTree]
  have hany : ∀ id : Nat, (ofTree t).scopes[id]?.any (·.span.holds offset) =
      t.outline.regions[id]?.any (·.span.holds offset) := by
    intro id
    rw [getElem?_regions, Option.any_map]
    rfl
  have hlast := find?_numbers_reverse (fun r : Region => r.span.holds offset) t.outline.regions
  unfold scopeAt Region.held
  simp only [← getElem?_regions, hsize, hany]
  cases hfind : (List.range t.outline.regions.length).reverse.find? fun id =>
      t.outline.regions[id]?.any (·.span.holds offset) with
  | none =>
    rw [hfind, Option.bind_none] at hlast
    rw [← hlast]
    rfl
  | some id =>
    rw [hfind, Option.bind_some] at hlast
    rw [← hlast, Option.getD_some]
    have hid := List.mem_range.1 (List.mem_reverse.1 (List.mem_of_find?_eq_some hfind))
    rw [List.getElem?_eq_getElem hid, Option.getD_some]

theorem isFunctionLikeAt_eq (t : Tree) (offset : Nat) :
    (ofTree t).isFunctionLikeAt offset = (Region.kindAt .file offset t.outline.regions).isFunctionLike := by
  obtain ⟨s, hs, hregion⟩ := Option.map_eq_some_iff.1 (region_scopeAt t offset)
  have hkind : s.kind = Region.kindAt .file offset t.outline.regions := by
    rw [Region.kindAt_eq_getLast?]
    change s.region.kind = _
    rw [hregion]
    cases (Region.held offset t.outline.regions).getLast? <;> rfl
  rw [isFunctionLikeAt, hs, Option.any_some, hkind]

end ScopeTree

/-! ### Regions of a node -/

namespace Reading

/-- The region that a node opens, if it opens one. -/
def ownRegion (r : Reading) (n : Node) : List Region := ((r.scopeKind? n.kind).map fun k => ⟨k, n.span⟩).toList

/-- The kind of the region in which the parts of a node stand. -/
def innerKind (r : Reading) (n : Node) (outer : ScopeKind) : ScopeKind := (r.scopeKind? n.kind).getD outer

private theorem regionsAll_enclose (r : Reading) (n : Node) (parts : List Outline) :
    Outline.regions.regionsAll (r.enclose n parts) = r.ownRegion n ++ Outline.regions.regionsAll parts := by
  unfold enclose ownRegion
  cases r.scopeKind? n.kind <;> simp [Outline.regions.regionsAll, Outline.regions]

/-- A node whose name is read in front of its region opens one. -/
theorem scopeKind?_of_readsName {r : Reading} {n : Node} (h : r.readsName n = true) :
    r.scopeKind? n.kind = some .function := by
  simp only [readsName, Bool.and_eq_true, decide_eq_true_eq] at h
  obtain ⟨⟨rfl, hk⟩, -⟩ := h
  simp [scopeKind?, hk]

private theorem kindAt_ownRegion (r : Reading) (n : Node) (outer : ScopeKind) {offset : Nat}
    (h : n.span.holds offset = true) : Region.kindAt outer offset (r.ownRegion n) = r.innerKind n outer := by
  unfold ownRegion innerKind
  cases r.scopeKind? n.kind <;> simp [Region.kindAt, h]

end Reading

namespace Node

variable {n : Node}

theorem regionsAll_outline (source : String) (reading : Reading) (n : Node) :
    Outline.regions.regionsAll (n.outline source reading) =
      Outline.regions.regionsAll (n.outlineName source (reading.settle n.kind)) ++
        (reading.settle n.kind).ownRegion n ++
        n.children.flatMap fun c => Outline.regions.regionsAll
          (outlineAs source ((reading.settle n.kind).role source n) c) := by
  rw [outline_eq]
  simp [Reading.regionsAll_enclose, outlineParts, Outline.regionsAll_flatMap, List.append_assoc]

/-- The regions of a node's outline lie inside the node. -/
theorem IsNested.regions_inside (h : n.IsNested) (source : String) : ∀ reading : Reading,
    ∀ r ∈ Outline.regions.regionsAll (n.outline source reading), n.span.covers r.span = true := by
  induction n using Node.induction with
  | h label children ih =>
    intro reading r hr
    rw [regionsAll_outline, List.mem_append, List.mem_append] at hr
    rcases hr with (hr | hr) | hr
    · unfold outlineName at hr
      split at hr
      · cases hname : (mk label children).childByField? .name with
        | none => simp [hname] at hr
        | some c =>
          have hc := mem_children_of_field hname
          rw [hname] at hr
          exact Span.covers_trans (h.covers_child hc) (ih c hc (h.child hc) .code r hr)
      · cases hr
    · obtain ⟨k, -, rfl⟩ := Option.map_eq_some_iff.1 (Option.mem_toList.1 hr)
      exact Span.covers_self _
    · obtain ⟨c, hc, hr⟩ := List.mem_flatMap.1 hr
      unfold outlineAs at hr
      cases hrole : (reading.settle (mk label children).kind).role source (mk label children) c with
      | none => simp [hrole] at hr
      | some reading' =>
        rw [hrole] at hr
        exact Span.covers_trans (h.covers_child hc) (ih c hc (h.child hc) reading' r hr)

theorem IsNested.regionsAll_outlineAs_inside (h : n.IsNested) {source : String} {role : Node → Option Reading}
    {r : Region} (hr : r ∈ Outline.regions.regionsAll (outlineAs source role n)) : n.span.covers r.span = true := by
  unfold outlineAs at hr
  cases hrole : role n with
  | none => simp [hrole] at hr
  | some reading =>
    rw [hrole] at hr
    exact h.regions_inside source reading r hr

/-- Of the regions of several nodes in order, those of the node that holds the offset decide. -/
private theorem kindAt_flatMap {cs : List Node} (hpair : cs.Pairwise fun a b => a.span.stop ≤ b.span.start)
    {regions : Node → List Region} (hinside : ∀ c ∈ cs, ∀ r ∈ regions c, c.span.covers r.span = true) {c : Node}
    (hc : c ∈ cs) {offset : Nat} (hoffset : c.span.holds offset = true) (outer : ScopeKind) :
    Region.kindAt outer offset (cs.flatMap regions) = Region.kindAt outer offset (regions c) := by
  rw [Span.holds_iff] at hoffset
  have hskip : ∀ d ∈ cs, d.span.Apart c.span → ∀ r ∈ regions d, ¬ r.span.holds offset = true := by
    intro d hd hapart r hr hholds
    have hcovers := Span.covers_iff.1 (hinside d hd r hr)
    rw [Span.holds_iff] at hholds
    rcases hapart with hapart | hapart <;> omega
  induction cs generalizing outer with
  | nil => cases hc
  | cons d cs ih =>
    obtain ⟨hfirst, hpair⟩ := List.pairwise_cons.1 hpair
    rw [List.flatMap_cons, Region.kindAt_append]
    by_cases hmem : c ∈ cs
    · rw [Region.kindAt_of_not_holds (hskip d (by simp) (.inl (hfirst c hmem)))]
      exact ih hpair (fun e he => hinside e (by simp [he])) hmem outer fun e he => hskip e (by simp [he])
    · obtain rfl : c = d := (List.mem_cons.1 hc).resolve_right hmem
      refine Region.kindAt_of_not_holds fun r hr => ?_
      obtain ⟨e, he, hr⟩ := List.mem_flatMap.1 hr
      exact hskip e (by simp [he]) (.inr (hfirst e he)) r hr

/-- Inside of a child, only the child's regions count, once the region of the node is open. -/
theorem IsNested.kindAt_child (h : n.IsNested) {source : String} {reading : Reading} {c : Node} (hc : c ∈ n.children)
    {offset : Nat} (hoffset : c.span.holds offset = true) (outer : ScopeKind) :
    Region.kindAt outer offset (Outline.regions.regionsAll (n.outline source reading)) =
      Region.kindAt ((reading.settle n.kind).innerKind n outer) offset
        (Outline.regions.regionsAll (outlineAs source ((reading.settle n.kind).role source n) c)) := by
  have hn : n.span.holds offset = true := Span.holds_of_covers (h.covers_child hc) hoffset
  have hinside : ∀ d ∈ n.children, ∀ r ∈ Outline.regions.regionsAll
      (outlineAs source ((reading.settle n.kind).role source n) d), d.span.covers r.span = true :=
    fun d hd r hr => (h.child hd).regionsAll_outlineAs_inside hr
  rw [regionsAll_outline, List.append_assoc, Region.kindAt_append, Region.kindAt_append,
    Reading.kindAt_ownRegion _ _ _ hn, kindAt_flatMap h.pairwise_children hinside hc hoffset]
  -- a computed name is read in front of the node's own region, and so does not count
  unfold outlineName
  split
  · rename_i hname
    simp [Reading.innerKind, Reading.scopeKind?_of_readsName hname]
  · rfl

end Node

theorem Tree.regions_eq (t : Tree) : t.outline.regions = ⟨.file, t.root.fullSpan⟩ ::
    t.root.children.flatMap fun c => Outline.regions.regionsAll (c.outline t.source .code) := by
  rw [Tree.outline, Outline.regions, Node.outlineAll_eq_flatMap, Outline.regionsAll_flatMap]
  rfl

/-- Inside of a child of the root, only the child's regions count. -/
theorem Tree.kindAt_child {t : Tree} (h : t.root.IsNested) {c : Node} (hc : c ∈ t.root.children) {offset : Nat}
    (hoffset : c.span.holds offset = true) :
    Region.kindAt .file offset t.outline.regions =
      Region.kindAt .file offset (Outline.regions.regionsAll (c.outline t.source .code)) := by
  have hinside : ∀ d ∈ t.root.children, ∀ r ∈ Outline.regions.regionsAll (d.outline t.source .code),
      d.span.covers r.span = true := fun d hd => (h.child hd).regions_inside t.source .code
  rw [regions_eq, Region.kindAt, ite_self, Node.kindAt_flatMap h.pairwise_children hinside hc hoffset]

end ScriptTidy
