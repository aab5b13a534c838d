import Mathlib.Data.List.Basic
import ScriptTidy.Proofs.Names.Regions
import ScriptTidy.Proofs.Text.Slice

/-!
# No place is mentioned twice

The outline of a nested tree mentions spans that hold bytes, lie inside the tree and are apart from each other
(`scattered_places`). A node mentions either itself, and then nothing of its children is read, or one of its children,
and then that child is not read in another way (`fits`).
-/

namespace ScriptTidy

/-- The place of a mention. -/
def Mention.span : Mention → Span
  | declares _ _ site => site.span
  | refers _ site => site.span

/-- The places that some outlines mention. -/
def Outline.places (os : List Outline) : List Span := (mentions.mentionsAll os).map Mention.span

/-! ### Scattered spans -/

/-- The spans hold bytes, lie inside `s` and are apart from each other. -/
structure Span.Scattered (s : Span) (rs : List Span) : Prop where
  inside : ∀ r ∈ rs, s.covers r = true
  byte : ∀ r ∈ rs, r.start < r.stop
  apart : rs.Pairwise Span.Apart

/-- The nodes lie inside `s`, in order and apart. -/
structure Span.Spread (s : Span) (ns : List Node) : Prop where
  inside : ∀ n ∈ ns, s.covers n.span = true
  inOrder : ns.Pairwise fun a b => a.span.stop ≤ b.span.start

namespace Span

variable {s t : Span} {rs ts : List Span} {ns : List Node}

namespace Scattered

theorem nil (s : Span) : s.Scattered [] := ⟨by simp, by simp, .nil⟩

theorem append (hr : s.Scattered rs) (ht : s.Scattered ts) (h : ∀ r ∈ rs, ∀ t ∈ ts, r.Apart t) :
    s.Scattered (rs ++ ts) := by
  refine ⟨?_, ?_, List.pairwise_append.2 ⟨hr.apart, ht.apart, h⟩⟩
  · intro r hmem
    rcases List.mem_append.1 hmem with hmem | hmem
    · exact hr.inside r hmem
    · exact ht.inside r hmem
  · intro r hmem
    rcases List.mem_append.1 hmem with hmem | hmem
    · exact hr.byte r hmem
    · exact ht.byte r hmem

theorem of_covers (h : t.Scattered rs) (hs : s.covers t = true) : s.Scattered rs :=
  ⟨fun r hr => Span.covers_trans hs (h.inside r hr), h.byte, h.apart⟩

theorem of_perm (h : s.Scattered rs) (hperm : rs.Perm ts) : s.Scattered ts :=
  ⟨fun r hr => h.inside r (hperm.mem_iff.2 hr), fun r hr => h.byte r (hperm.mem_iff.2 hr),
    (hperm.pairwise_iff Apart.symm).1 h.apart⟩

/-- What is scattered inside of nodes that are spread is scattered. -/
theorem flatMap (hns : s.Spread ns) {f : Node → List Span} (h : ∀ n ∈ ns, n.span.Scattered (f n)) :
    s.Scattered (ns.flatMap f) := by
  refine ⟨?_, ?_, List.pairwise_flatMap.2 ⟨fun n hn => (h n hn).apart, ?_⟩⟩
  · intro r hr
    obtain ⟨n, hn, hr⟩ := List.mem_flatMap.1 hr
    exact Span.covers_trans (hns.inside n hn) ((h n hn).inside r hr)
  · intro r hr
    obtain ⟨n, hn, hr⟩ := List.mem_flatMap.1 hr
    exact (h n hn).byte r hr
  · refine hns.inOrder.imp_of_mem fun {a b} ha hb hab r hr t ht => ?_
    have hapart : a.span.Apart b.span := .inl hab
    exact hapart.of_covers ((h a ha).inside r hr) ((h b hb).inside t ht)

end Scattered

namespace Spread

theorem nil (s : Span) : s.Spread [] := ⟨by simp, .nil⟩

private theorem singleton {n : Node} (h : s.covers n.span = true) : s.Spread [n] := ⟨by simpa using h, by simp⟩

theorem toList {n? : Option Node} (h : ∀ n, n? = some n → s.covers n.span = true) : s.Spread n?.toList := by
  cases n? with
  | none => exact nil s
  | some n => exact singleton (h n rfl)

theorem filter (h : s.Spread ns) (p : Node → Bool) : s.Spread (ns.filter p) :=
  ⟨fun n hn => h.inside n (List.mem_filter.1 hn).1, h.inOrder.filter p⟩

theorem flatMap (hns : s.Spread ns) {f : Node → List Node} (h : ∀ n ∈ ns, n.span.Spread (f n)) :
    s.Spread (ns.flatMap f) := by
  refine ⟨?_, List.pairwise_flatMap.2 ⟨fun n hn => (h n hn).inOrder, ?_⟩⟩
  · intro m hm
    obtain ⟨n, hn, hm⟩ := List.mem_flatMap.1 hm
    exact Span.covers_trans (hns.inside n hn) ((h n hn).inside m hm)
  · refine hns.inOrder.imp_of_mem fun {a b} ha hb hab x hx y hy => ?_
    have hx' := Span.covers_iff.1 ((h a ha).inside x hx)
    have hy' := Span.covers_iff.1 ((h b hb).inside y hy)
    omega

end Spread

end Span

private theorem Node.IsNested.spread {n : Node} (h : n.IsNested) : n.span.Spread n.children :=
  ⟨fun _ hc => h.covers_child hc, h.pairwise_children⟩

/-- What has a text has a byte. -/
theorem Node.lt_of_text {n : Node} {source : String} (h : n.text source ≠ "") : n.span.start < n.span.stop := by
  unfold Node.text slice at h
  cases hs : slice? source n.span with
  | none => simp [hs] at h
  | some text =>
    rw [hs, Option.getD_some] at h
    obtain ⟨a, b, -, hstart, hstop⟩ := slice?_eq_some_iff.1 hs
    have hpos : text.utf8ByteSize ≠ 0 := fun hzero => h (String.utf8ByteSize_eq_zero_iff.1 hzero)
    rw [← hstart, ← hstop, String.utf8ByteSize_append]
    omega

/-! ### What a node mentions by itself -/

namespace Outline

@[simp] theorem places_nil : places [] = [] := rfl

@[simp] theorem places_append (os ps : List Outline) : places (os ++ ps) = places os ++ places ps := by
  simp [places]

@[simp] theorem places_stamp (r : Reading) (parts : List Outline) : places (r.stamp parts) = places parts := by
  simp [places]

@[simp] theorem places_enclose (r : Reading) (n : Node) (parts : List Outline) :
    places (r.enclose n parts) = places parts := by
  simp [places]

private theorem places_flatMap {α : Type} (xs : List α) (f : α → List Outline) :
    places (xs.flatMap f) = xs.flatMap fun x => places (f x) := by
  simp only [places, mentionsAll_flatMap, List.map_flatMap]

private theorem scattered_singleton {n : Node} {source : String} (h : n.text source ≠ "") :
    n.span.Scattered [n.span] :=
  ⟨by simp, by simpa using Node.lt_of_text h, by simp⟩

private theorem scattered_declareNode (source : String) (kind : BindingKind) (form : Form) (n : Node) :
    n.span.Scattered (places (declareNode source kind form n)) := by
  unfold declareNode
  split
  · exact .nil _
  · exact scattered_singleton ‹_›

private theorem scattered_referNode (source : String) (form : Form) (n : Node) :
    n.span.Scattered (places (referNode source form n)) := by
  unfold referNode
  split
  · exact .nil _
  · exact scattered_singleton ‹_›

end Outline

namespace Reading

variable {n : Node}

private theorem spread_importedBy (h : n.IsNested) : n.span.Spread (importedBy n) := by
  unfold importedBy
  split
  · exact .singleton (Span.covers_self _)
  · exact .toList fun c hc => h.covers_child (Node.mem_children_of_kind hc)
  · rw [List.filterMap_eq_flatMap_toList]
    refine .flatMap (h.spread.filter _) fun specifier hspecifier => .toList fun c hc => ?_
    exact (h.child (Node.mem_children_of_proper hspecifier)).covers_child (mem_children_of_imported hc)
  · exact .nil _

private theorem spread_importedNames (h : n.IsNested) : n.span.Spread (importedNames n) := by
  refine .flatMap (h.spread.filter _) fun clause hclause => ?_
  have hclause' := h.child (Node.mem_children_of_proper hclause)
  split
  · refine .flatMap (hclause'.spread.filter _) fun part hpart => ?_
    exact spread_importedBy (hclause'.child (Node.mem_children_of_proper hpart))
  · exact .toList fun c hc => hclause'.covers_child (Node.mem_children_of_kind hc)
  · exact .nil _

private theorem scattered_exportedBy (h : n.IsNested) (source : String) :
    n.span.Scattered (Outline.places (exportedBy source n)) := by
  unfold exportedBy
  split
  · rename_i name hname
    split
    · exact (Outline.scattered_referNode source _ name).of_covers (h.covers_child (Node.mem_children_of_field hname))
    · exact .nil _
  · exact .nil _

/-- What a node mentions besides what its children mention: the names that it declares in the region around it or in
its own, and itself. -/
def own (source : String) (r : Reading) (n : Node) : List Outline :=
  r.preamble source n ++ n.outlineName source r ++ r.opening source n

/-- What a node mentions by itself fits in with what its children mention: it is nothing, or stands inside of a child
that is not read in another way, or no child is read at all. -/
private def Fits (source : String) (r : Reading) (n : Node) : Prop :=
  Outline.places (r.own source n) = [] ∨
  (∃ c ∈ n.children, r.role source n c = none ∧ c.span.Scattered (Outline.places (r.own source n))) ∨
  (∀ c ∈ n.children, r.role source n c = none) ∧ n.span.Scattered (Outline.places (r.own source n))

/-- A node may declare its first child in the field of a name, if it does not read that child. -/
private theorem Fits.of_name {source : String} {r : Reading} {how : BindingKind}
    (hown : r.own source n = ((n.childByField? .name).map (Outline.declareNode source how .plain)).getD [])
    (hrole : ∀ c : Node, c.field = some .name → r.role source n c = none) : Fits source r n := by
  cases hc : n.childByField? .name with
  | none =>
    rw [hc] at hown
    exact .inl (by rw [hown]; rfl)
  | some c =>
    have hfield : c.field = some .name := by simpa using List.find?_some hc
    rw [hc] at hown
    refine .inr (.inl ⟨c, Node.mem_children_of_field hc, hrole c hfield, ?_⟩)
    rw [hown]
    exact Outline.scattered_declareNode source how .plain c

/-- A method may read its computed name in front of its region, because it does not read it again inside. -/
private theorem Fits.of_method {source : String} (hk : n.kind.construct = .methodLike)
    (hname : ∀ c ∈ n.children, c.span.Scattered (Outline.places (c.outline source .code))) : Fits source code n := by
  have hown : code.own source n = n.outlineName source code := by simp [own, preamble, opening, hk]
  unfold Fits
  rw [hown]
  unfold Node.outlineName
  split
  · cases hc : n.childByField? .name with
    | none => exact .inl rfl
    | some c =>
      have hfield : c.field = some .name := by simpa using List.find?_some hc
      have hmem := Node.mem_children_of_field hc
      exact .inr (.inl ⟨c, hmem, by simp [role, codeRole, hk, functionRole, hfield], hname c hmem⟩)
  · exact .inl rfl

/-- In every reading, what a node mentions by itself fits in. -/
private theorem fits (h : n.IsNested) (source : String) (r : Reading)
    (hname : ∀ c ∈ n.children, c.span.Scattered (Outline.places (c.outline source .code))) : Fits source r n := by
  cases r with
  | code =>
    cases hk : n.kind.construct with
    | name form =>
      refine .inr (.inr ⟨fun c _ => by simp [role, codeRole, hk], ?_⟩)
      simpa [own, preamble, Node.outlineName, readsName, opening, hk] using Outline.scattered_referNode source form n
    | importStatement =>
      refine .inr (.inr ⟨fun c _ => by simp [role, codeRole, hk], ?_⟩)
      simp only [own, preamble, Node.outlineName, readsName, opening, hk, Outline.places_flatMap, Outline.places_append]
      exact .flatMap (spread_importedNames h) fun c _ => Outline.scattered_declareNode source _ _ c
    | methodLike => exact .of_method hk hname
    | functionDeclaration | functionExpression | classDeclaration | classExpression =>
      refine .of_name (by simp [own, preamble, Node.outlineName, readsName, opening, hk]; rfl) fun c hfield => ?_
      simp [role, codeRole, hk, functionRole, hfield]
    | _ => exact .inl (by simp [own, preamble, Node.outlineName, readsName, opening, hk])
  | pattern how =>
    cases hk : n.kind with
    | identifier | shorthandPropertyIdentifierPattern =>
      refine .inr (.inr ⟨fun c _ => by simp [role, patternRole, hk], ?_⟩)
      simpa [own, preamble, Node.outlineName, readsName, opening, hk] using
        Outline.scattered_declareNode source how _ n
    | _ => exact .inl (by simp [own, preamble, Node.outlineName, readsName, opening, hk])
  | exportList =>
    refine .inr (.inr ⟨fun c _ => rfl, ?_⟩)
    simp only [own, preamble, Node.outlineName, readsName, opening, Outline.places_flatMap, Outline.places_append]
    exact .flatMap (h.spread.filter _) fun c hc =>
      scattered_exportedBy (h.child (Node.mem_children_of_proper hc)) source
  | tag =>
    refine .inr (.inr ⟨fun c _ => rfl, ?_⟩)
    have hown : tag.own source n =
        if isBuiltinTag (n.text source) then [] else Outline.referNode source .markupTag n := by
      simp [own, preamble, Node.outlineName, readsName, opening]
    rw [hown]
    split
    · exact .nil _
    · exact Outline.scattered_referNode source .markupTag n
  | typeName =>
    refine .inr (.inr ⟨fun c _ => rfl, ?_⟩)
    simpa [own, preamble, Node.outlineName, readsName, opening] using Outline.scattered_declareNode source _ _ n
  | _ => exact .inl (by simp [own, preamble, Node.outlineName, readsName, opening])

end Reading

namespace Node

variable {n : Node}

private theorem places_outline (source : String) (reading : Reading) (n : Node) :
    Outline.places (n.outline source reading) =
      Outline.places ((reading.settle n.kind).own source n) ++
        n.children.flatMap fun c => Outline.places (outlineAs source ((reading.settle n.kind).role source n) c) := by
  rw [outline_eq]
  simp [Reading.own, outlineParts, Outline.places_flatMap]

/-- The places that a node's outline mentions lie inside the node, apart from each other. -/
theorem IsNested.scattered (h : n.IsNested) (source : String) : ∀ reading : Reading,
    n.span.Scattered (Outline.places (n.outline source reading)) := by
  induction n using Node.induction with
  | h label children ih =>
    intro reading
    have hchild : ∀ c ∈ children, ∀ role : Node → Option Reading,
        c.span.Scattered (Outline.places (outlineAs source role c)) := by
      intro c hc role
      unfold outlineAs
      cases role c with
      | none => exact .nil _
      | some r => exact ih c hc (h.child hc) r
    have hparts := Span.Scattered.flatMap h.spread fun c hc =>
      hchild c hc ((reading.settle (mk label children).kind).role source (mk label children))
    rw [places_outline]
    rcases Reading.fits h source (reading.settle (mk label children).kind) fun c hc => ih c hc (h.child hc) .code
      with hown | ⟨c, hc, hrole, hown⟩ | ⟨hnone, hown⟩
    · rw [hown]
      exact hparts
    · refine .append (hown.of_covers (h.covers_child hc)) hparts fun r hr t ht => ?_
      obtain ⟨d, hd, ht⟩ := List.mem_flatMap.1 ht
      rcases h.eq_or_apart hc hd with rfl | hapart
      · simp [outlineAs, hrole] at ht
      · exact hapart.of_covers (hown.inside r hr) ((hchild d hd _).inside t ht)
    · refine .append hown hparts fun r hr t ht => ?_
      obtain ⟨d, hd, ht⟩ := List.mem_flatMap.1 ht
      simp [outlineAs, hnone d hd] at ht

/-- What a node mentions by itself stands in no child that it reads. -/
theorem IsNested.not_covers_own (h : n.IsNested) {source : String} {r r' : Reading} {c : Node} (hc : c ∈ n.children)
    (hrole : r.role source n c = some r') {p : Span} (hp : p ∈ Outline.places (r.own source n)) :
    ¬ c.span.covers p = true := by
  intro hin
  rcases Reading.fits h source r fun d hd => (h.child hd).scattered source .code
    with hown | ⟨d, hd, hnone, hown⟩ | ⟨hnone, -⟩
  · rw [hown] at hp
    cases hp
  · rcases h.eq_or_apart hc hd with rfl | hapart
    · rw [hrole] at hnone
      cases hnone
    · exact Span.not_apart_self (hown.byte p hp) (hapart.of_covers hin (hown.inside p hp))
  · rw [hnone c hc] at hrole
    cases hrole

/-- A place inside of a child is mentioned by no other child. -/
theorem IsNested.eq_of_place (h : n.IsNested) {source : String} {role : Node → Option Reading} {c d : Node}
    (hc : c ∈ n.children) (hd : d ∈ n.children) {p : Span} (hp : p ∈ Outline.places (outlineAs source role d))
    (hin : c.span.covers p = true) : d = c := by
  unfold outlineAs at hp
  cases hrole : role d with
  | none => simp [hrole] at hp
  | some r =>
    rw [hrole, Option.map_some, Option.getD_some] at hp
    have hd' := (h.child hd).scattered source r
    rcases h.eq_or_apart hd hc with heq | hapart
    · exact heq
    · exact absurd (hapart.of_covers (hd'.inside p hp) hin) (Span.not_apart_self (hd'.byte p hp))

/-! ### The computed name of a method -/

theorem preamble_of_readsName {r : Reading} {source : String} (hreads : r.readsName n = true) :
    r.preamble source n = [] := by
  simp only [Reading.readsName, Bool.and_eq_true, decide_eq_true_eq] at hreads
  obtain ⟨⟨rfl, hmethod⟩, -⟩ := hreads
  simp [Reading.preamble, hmethod]

theorem outlineName_of_readsName {r : Reading} {source : String} {c : Node} (hreads : r.readsName n = true)
    (hname : n.childByField? .name = some c) : n.outlineName source r = c.outline source .code := by
  simp [outlineName, hreads, hname]

/-- In front of its region, a node adds nothing or what its computed name says. -/
theorem outlineName_cases (source : String) (r : Reading) (n : Node) : n.outlineName source r = [] ∨
    ∃ c, r.readsName n = true ∧ n.childByField? .name = some c ∧ n.outlineName source r = c.outline source .code := by
  cases hreads : r.readsName n with
  | false => exact .inl (by simp [outlineName, hreads])
  | true =>
    cases hname : n.childByField? .name with
    | none => exact .inl (by simp [outlineName, hname])
    | some c => exact .inr ⟨c, rfl, rfl, outlineName_of_readsName hreads hname⟩

/-- The computed name of a method is not read again with the other children. -/
theorem outlineAs_of_readsName {r : Reading} {source : String} {c : Node} (hreads : r.readsName n = true)
    (hname : n.childByField? .name = some c) : outlineAs source (r.role source n) c = [] := by
  have hfield : c.field = some .name := by simpa using List.find?_some hname
  simp only [Reading.readsName, Bool.and_eq_true, decide_eq_true_eq] at hreads
  obtain ⟨⟨rfl, hmethod⟩, -⟩ := hreads
  simp [outlineAs, Reading.role, Reading.codeRole, hmethod, Reading.functionRole, hfield]

/-- Besides its name, a method mentions nothing in the place of the name. -/
theorem IsNested.not_covers_parts (h : n.IsNested) {r : Reading} {source : String} {c : Node}
    (hreads : r.readsName n = true) (hname : n.childByField? .name = some c) {p : Span}
    (hp : p ∈ Outline.places (n.outlineParts source r)) : ¬ c.span.covers p = true := by
  intro hin
  have hopening : r.opening source n = [] := by
    simp only [Reading.readsName, Bool.and_eq_true, decide_eq_true_eq] at hreads
    obtain ⟨⟨rfl, hmethod⟩, -⟩ := hreads
    rw [Reading.opening, hmethod]
  rw [outlineParts, hopening, List.nil_append, Outline.places_flatMap] at hp
  obtain ⟨d, hd, hp⟩ := List.mem_flatMap.1 hp
  obtain rfl := h.eq_of_place (mem_children_of_field hname) hd hp hin
  rw [outlineAs_of_readsName hreads hname] at hp
  cases hp

end Node

/-- The outline of a nested tree mentions no byte twice. -/
theorem Tree.scattered_places {t : Tree} (h : t.root.IsNested) :
    t.root.span.Scattered (t.outline.mentions.map Mention.span) := by
  have hplaces : t.outline.mentions.map Mention.span =
      t.root.children.flatMap fun c => Outline.places (c.outline t.source .code) := by
    rw [← Outline.places_flatMap]
    rw [Tree.outline, Outline.mentions, Node.outlineAll_eq_flatMap]
    rfl
  rw [hplaces]
  exact .flatMap h.spread fun c hc => (h.child hc).scattered t.source .code

/-- Mentions of one place are the same. -/
theorem Tree.mention_unique {t : Tree} (h : t.root.IsNested) {m m' : Mention} (hm : m ∈ t.outline.mentions)
    (hm' : m' ∈ t.outline.mentions) (hspan : m.span = m'.span) : m = m' := by
  have hscattered := scattered_places h
  rcases Span.eq_or_apart (List.pairwise_map.1 hscattered.apart) hm hm' with heq | hapart
  · exact heq
  · rw [← hspan] at hapart
    exact absurd hapart (Span.not_apart_self (hscattered.byte _ (List.mem_map_of_mem hm)))

end ScriptTidy
