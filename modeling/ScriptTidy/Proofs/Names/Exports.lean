import ScriptTidy.Proofs.Names.Sites

/-!
# Which bindings are exported

`Tree.Reads` says how the nodes of a tree are read and in which kind of region, and `Outline.Stands` where in the
outline the outline of such a node is found (`Reads.stands`). What stands in an outline is read on the way from one
record to the next (`Stands.record`).

An export statement marks the bindings that are new since it began and live in the region around it. So a name that is
declared by its declaration is marked if it is declared there for the first time and belongs to that region
(`exported_of_first`).
-/

namespace ScriptTidy

/-! ### Where a node is read -/

/-- The node is read in this way, in a region of this kind. -/
inductive Tree.Reads (t : Tree) : ScopeKind → Reading → Node → Prop
  | top {c : Node} : c ∈ t.root.children → Reads t .file .code c
  | child {kind : ScopeKind} {r r' : Reading} {n c : Node} : Reads t kind r n → c ∈ n.children →
    (r.settle n.kind).role t.source n c = some r' → Reads t ((r.settle n.kind).innerKind n kind) r' c
  /-- The computed name of a method is read in front of the method's region. -/
  | name {kind : ScopeKind} {r : Reading} {n c : Node} : Reads t kind r n →
    (r.settle n.kind).readsName n = true → n.childByField? .name = some c → Reads t kind .code c

theorem Tree.Reads.mem_nodes {t : Tree} {kind : ScopeKind} {r : Reading} {n : Node} (h : t.Reads kind r n) :
    n ∈ t.root.nodes := by
  induction h with
  | top hc => exact Node.child_mem_nodes hc
  | child _ hc _ ih => exact Node.mem_nodes_trans (Node.child_mem_nodes hc) ih
  | name _ _ hc ih => exact Node.mem_nodes_trans (Node.child_mem_nodes (Node.mem_children_of_field hc)) ih

/-- The part stands somewhere in the outlines. It is in a region of kind `inner`, and they are in one of kind
`outer`. -/
inductive Outline.Stands (part : List Outline) (inner : ScopeKind) : ScopeKind → List Outline → Prop
  | here (front back : List Outline) : Stands part inner inner (front ++ part ++ back)
  | scope {outer kind : ScopeKind} {span : Span} {parts : List Outline} (front back : List Outline) :
    Stands part inner kind parts → Stands part inner outer (front ++ [.scope kind span parts] ++ back)
  | exported {outer : ScopeKind} {parts : List Outline} (front back : List Outline) :
    Stands part inner outer parts → Stands part inner outer (front ++ [.exported parts] ++ back)

namespace Outline.Stands

variable {part parts os : List Outline} {inner kind outer : ScopeKind}

theorem around (h : Stands part inner outer os) (front back : List Outline) :
    Stands part inner outer (front ++ os ++ back) := by
  cases h with
  | here front' back' => simpa using @here part inner (front ++ front') (back' ++ back)
  | scope front' back' h => simpa using scope (front ++ front') (back' ++ back) h
  | exported front' back' h => simpa using exported (front ++ front') (back' ++ back) h

theorem trans (h : Stands part inner kind parts) (h' : Stands parts kind outer os) : Stands part inner outer os := by
  induction h' with
  | here front back => exact h.around front back
  | scope front back _ ih => exact scope front back ih
  | exported front back _ ih => exact exported front back ih

theorem stamp (h : Stands part inner outer os) (r : Reading) : Stands part inner outer (r.stamp os) := by
  unfold Reading.stamp
  split
  · exact exported [] [] h
  · exact h

theorem enclose {r : Reading} {n : Node} (h : Stands part inner (r.innerKind n outer) os) :
    Stands part inner outer (r.enclose n os) := by
  unfold Reading.innerKind at h
  unfold Reading.enclose
  cases hk : r.scopeKind? n.kind with
  | none =>
    rw [hk] at h
    exact h
  | some kind =>
    rw [hk] at h
    exact scope [] [] h

end Outline.Stands

namespace Tree

variable {t : Tree}

/-- The outline of one of several nodes stands in the outlines of all. -/
private theorem stands_flatMap {cs : List Node} {c : Node} (hc : c ∈ cs) (f : Node → List Outline) (kind : ScopeKind) :
    Outline.Stands (f c) kind kind (cs.flatMap f) := by
  obtain ⟨front, back, rfl⟩ := List.append_of_mem hc
  rw [List.flatMap_append, List.flatMap_cons, ← List.append_assoc]
  exact .here _ _

/-- The outline of a node stands where the node is read. -/
theorem Reads.stands {kind : ScopeKind} {r : Reading} {n : Node} (h : t.Reads kind r n) :
    Outline.Stands (n.outline t.source r) kind .file
      (Node.outline.outlineAll t.source (fun _ => some .code) t.root.children) := by
  induction h with
  | @top c hc =>
    rw [Node.outlineAll_eq_flatMap]
    exact stands_flatMap hc (Node.outlineAs t.source fun _ => some .code) .file
  | @child kind r r' n c _ hc hrole ih =>
    refine .trans ?_ ih
    have hpart := stands_flatMap hc (Node.outlineAs t.source ((r.settle n.kind).role t.source n))
      ((r.settle n.kind).innerKind n kind)
    rw [show Node.outlineAs t.source ((r.settle n.kind).role t.source n) c = c.outline t.source r' by
      simp [Node.outlineAs, hrole]] at hpart
    rw [Node.outline_eq t.source r n]
    refine .stamp ?_ r
    have hparts := hpart.around ((r.settle n.kind).opening t.source n) []
    rw [List.append_nil] at hparts
    have hregion := hparts.enclose.around
      ((r.settle n.kind).preamble t.source n ++ n.outlineName t.source (r.settle n.kind)) []
    rwa [List.append_nil] at hregion
  | @name kind r n c _ hreads hc ih =>
    refine .trans ?_ ih
    rw [Node.outline_eq t.source r n]
    refine .stamp ?_ r
    have hname : n.outlineName t.source (r.settle n.kind) = c.outline t.source .code := by
      simp [Node.outlineName, hreads, hc]
    rw [hname]
    exact .here _ _

end Tree

/-! ### What is read on the way -/

namespace ScopeRecord

variable {P : Mention → Prop} {d : ScopeRecord} {opened : List Nat} {kind : ScopeKind}

/-- A sound record inside an open region of some kind. -/
structure IsAt (P : Mention → Prop) (d : ScopeRecord) (kind : ScopeKind) (opened : List Nat) : Prop where
  sound : Sound P d
  isOpen : d.IsOpen opened
  isInside : d.IsInside kind opened

namespace IsAt

theorem recordAll (h : IsAt P d kind opened) {os : List Outline} (hP : ∀ m ∈ Outline.mentions.mentionsAll os, P m) :
    IsAt P (Outline.record.recordAll opened os d) kind opened := by
  obtain ⟨hsound, hsize⟩ := Kept.record.recordAll (Sound.kept P) os opened d hP h.isOpen h.sound
  exact ⟨hsound, h.isOpen.mono hsize, h.isInside.recordAll os⟩

theorem openScope (h : IsAt P d kind opened) (inner : ScopeKind) (span : Span) :
    IsAt P (d.openScope opened inner span) inner (d.scopes.size :: opened) :=
  ⟨(Sound.kept P).openScope d opened inner span h.isOpen h.sound, .openScope h.isOpen.lt_size inner span,
    .openScope d opened inner span⟩

end IsAt

private theorem recordAll_append (opened : List Nat) (os ps : List Outline) (d : ScopeRecord) :
    Outline.record.recordAll opened (os ++ ps) d =
      Outline.record.recordAll opened ps (Outline.record.recordAll opened os d) := by
  induction os generalizing d with
  | nil => rfl
  | cons o os ih => exact ih _

/-- What is read behind the middle of three only lets the record grow. -/
private theorem IsAt.grows_middle (h : IsAt P d kind opened) {front middle back : List Outline}
    (hP : ∀ m ∈ Outline.mentions.mentionsAll (front ++ middle ++ back), P m) :
    IsAt P (Outline.record.recordAll opened front d) kind opened ∧
    (∀ m ∈ Outline.mentions.mentionsAll middle, P m) ∧
    Grows (Outline.mentions.mentionsAll back)
      (Outline.record.recordAll opened middle (Outline.record.recordAll opened front d))
      (Outline.record.recordAll opened (front ++ middle ++ back) d) := by
  simp only [Outline.mentionsAll_append, List.mem_append] at hP
  have hfront := h.recordAll fun m hm => hP m (.inl (.inl hm))
  have hmiddle := hfront.recordAll fun m hm => hP m (.inl (.inr hm))
  refine ⟨hfront, fun m hm => hP m (.inl (.inr hm)), ?_⟩
  rw [recordAll_append, recordAll_append]
  exact grows_record.grows_recordAll back opened _ (fun m hm => hP m (.inr hm)) hmiddle.isOpen hmiddle.sound

/-- A part that stands in an outline is read inside a region of its kind, and what is read behind it only lets the
record grow. -/
private theorem IsAt.of_stands {part os : List Outline} {inner outer : ScopeKind}
    (h : Outline.Stands part inner outer os) :
    ∀ {d : ScopeRecord} {opened : List Nat}, IsAt P d outer opened → (∀ m ∈ Outline.mentions.mentionsAll os, P m) →
      ∃ d' opened', IsAt P d' inner opened' ∧ (∀ m ∈ Outline.mentions.mentionsAll part, P m) ∧
        ∃ ms, Grows ms (Outline.record.recordAll opened' part d') (Outline.record.recordAll opened os d) := by
  induction h with
  | here front back =>
    intro d opened hd hP
    obtain ⟨hfront, hpart, hgrows⟩ := hd.grows_middle hP
    exact ⟨_, opened, hfront, hpart, _, hgrows⟩
  | @scope outer kind span parts front back _ ih =>
    intro d opened hd hP
    obtain ⟨hfront, hparts, hgrows⟩ := hd.grows_middle hP
    rw [Outline.mentions.mentionsAll, Outline.mentionsAll_nil, List.append_nil] at hparts
    obtain ⟨d', opened', hd', hpart, ms, hinner⟩ := ih (hfront.openScope kind span) hparts
    exact ⟨d', opened', hd', hpart, _, hinner.trans hgrows⟩
  | @exported outer parts front back _ ih =>
    intro d opened hd hP
    obtain ⟨hfront, hparts, hgrows⟩ := hd.grows_middle hP
    rw [Outline.mentions.mentionsAll, Outline.mentionsAll_nil, List.append_nil] at hparts
    obtain ⟨d', opened', hd', hpart, ms, hinner⟩ := ih hfront hparts
    exact ⟨d', opened', hd', hpart, _, (hinner.trans (grows_markExported _ _)).trans hgrows⟩

/-! ### What an export statement marks -/

private theorem mem_tail_mono {α : Type} {xs ys : List α} {x : α} (h : xs <+: ys) (hx : x ∈ xs.tail) : x ∈ ys.tail := by
  obtain ⟨more, rfl⟩ := h
  cases xs with
  | nil => cases hx
  | cons y xs => exact List.mem_append_left _ hx

/-- A declared name has a binding. Either it is new and belongs to the home of the declaration, or the site is not its
first. -/
private theorem exists_of_declare (h : Sound P d) (opened : List Nat) (how : BindingKind) (name : String)
    (site : Site) :
    ∃ id b, (d.declare opened how name site).bindings[id]? = some b ∧ site ∈ b.sites ∧
      (d.bindings.size ≤ id ∧ b.scope = d.home opened how ∨ site ∈ b.sites.tail) := by
  rcases h.declare_cases opened how name site with ⟨id, b, hb, heq⟩ | heq
  · obtain ⟨first, rest, hsites⟩ := List.exists_cons_of_ne_nil (h.sites_ne_nil hb)
    refine ⟨id, { b with sites := b.sites ++ [site] }, ?_, by simp, .inr (by simp [hsites])⟩
    rw [heq, getElem?_bindings_addSite, if_pos rfl, hb]
    rfl
  · refine ⟨_, ⟨d.bindings.size, name, how, d.home opened how, [site], false⟩, ?_, by simp, .inl ⟨Nat.le_refl _, rfl⟩⟩
    rw [heq]
    simp [addBinding]

/-- A name that is declared directly in what is exported has a binding. If the name belongs to the region around, the
binding is exported or has this not as its first site. -/
theorem IsAt.exists_exported (h : IsAt P d kind opened) {parts : List Outline} {how : BindingKind} {name : String}
    {site : Site} (hP : ∀ m ∈ Outline.mentions.mentionsAll parts, P m) (hmem : .declare how name site ∈ parts) :
    ∃ (id : Nat) (b : Binding), ((Outline.exported parts).record opened d).bindings[id]? = some b ∧ site ∈ b.sites ∧
      ((how = .varName → kind.isFunctionLike = true) →
        b.exported = true ∨ site ∈ b.sites.tail) := by
  obtain ⟨front, back, rfl⟩ := List.append_of_mem hmem
  rw [List.append_cons] at hP ⊢
  obtain ⟨hfront, -, hgrows⟩ := h.grows_middle hP
  have hsize : d.bindings.size ≤ (Outline.record.recordAll opened front d).bindings.size := by
    simp only [Outline.mentionsAll_append, List.mem_append] at hP
    exact (grows_record.grows_recordAll front opened d (fun m hm => hP m (.inl (.inl hm))) h.isOpen h.sound).size_le
  obtain ⟨id, b, hb, hsite, hcases⟩ := exists_of_declare hfront.sound opened how name site
  obtain ⟨b', hb', hscope, hsites, -⟩ := hgrows.binding hb
  -- the binding when all parts are read, and marked if it is new and belongs to the region around
  have hmarked := getElem?_bindings_markExported (d := Outline.record.recordAll opened
    (front ++ [.declare how name site] ++ back) d) d.bindings.size (current opened) id
  rw [hb', Option.map_some] at hmarked
  refine ⟨id, _, hmarked, ?_, fun hhome => ?_⟩
  · split
    · exact hsites.subset hsite
    · exact hsites.subset hsite
  · rcases hcases with ⟨hnew, hb⟩ | hlater
    · rw [hfront.isInside.home_eq how hhome] at hb
      rw [if_pos ⟨by omega, hscope.trans hb⟩]
      exact .inl rfl
    · split
      · exact .inr (mem_tail_mono hsites hlater)
      · exact .inr (mem_tail_mono hsites hlater)

end ScopeRecord

namespace ScopeTree

variable {t : Tree} {kind : ScopeKind} {parts : List Outline} {how : BindingKind} {name : String} {site : Site}

/-- A name that an export statement declares has a binding. If the name belongs to the region around, the binding is
exported or has this not as its first site. -/
theorem exists_exported (h : Outline.Stands [.exported parts] kind .file
      (Node.outline.outlineAll t.source (fun _ => some .code) t.root.children))
    (hmem : .declare how name site ∈ parts) :
    ∃ (id : Nat) (b : Binding), (ofTree t).bindings[id]? = some b ∧ site ∈ b.sites ∧
      ((how = .varName → kind.isFunctionLike = true) →
        b.exported = true ∨ site ∈ b.sites.tail) := by
  have hstart : ScopeRecord.IsAt (· ∈ t.outline.mentions)
      (ScopeRecord.empty.openScope [] .file t.root.fullSpan) .file [0] :=
    ⟨ScopeRecord.sound_file _ _, .openScope (by simp) .file _, .openScope .empty [] .file _⟩
  obtain ⟨d, opened, hd, hP, ms, hgrows⟩ := hstart.of_stands h fun _ hm => hm
  rw [Outline.mentions.mentionsAll, Outline.mentionsAll_nil, List.append_nil] at hP
  obtain ⟨id, b, hb, hsite, hcases⟩ := hd.exists_exported hP hmem
  obtain ⟨b', hb', -, hsites, hexported⟩ := hgrows.binding hb
  refine ⟨id, b', hb', hsites.subset hsite, fun hhome => ?_⟩
  exact (hcases hhome).imp hexported fun hlater => ScopeRecord.mem_tail_mono hsites hlater

/-- A binding whose first site is declared by an export statement, for the region around the statement, is
exported. -/
theorem exported_of_first (hnested : t.root.IsNested) (h : Outline.Stands [.exported parts] kind .file
      (Node.outline.outlineAll t.source (fun _ => some .code) t.root.children))
    (hmem : .declare how name site ∈ parts) (hhome : how = .varName → kind.isFunctionLike = true) {id : Nat}
    {b : Binding} (hb : (ofTree t).bindings[id]? = some b) (hfirst : b.sites.head?.map (·.span) = some site.span) :
    b.exported = true := by
  have hseparate := separate_ofTree hnested
  obtain ⟨id', b', hb', hsite, hcases⟩ := exists_exported h hmem
  obtain ⟨first, hhead, hspan⟩ := Option.map_eq_some_iff.1 hfirst
  obtain ⟨rest, hrest⟩ := List.head?_eq_some_iff.1 hhead
  have hfirst' : first ∈ b.sites := by simp [hrest]
  obtain rfl := hseparate.eq_of_start hb hb' hfirst' hsite (congrArg Span.start hspan)
  obtain rfl : b = b' := Option.some.inj (hb.symm.trans hb')
  rcases hcases hhome with hexported | hlater
  · exact hexported
  · -- the same place cannot be both the first site and a later one
    have hsites := hseparate.sites hb
    rw [hrest] at hsites hlater
    have hapart := (List.pairwise_cons.1 hsites).1 site hlater
    rw [hspan] at hapart
    exact absurd hapart (Span.not_apart_self (hseparate.byte hb site hsite))

end ScopeTree

end ScriptTidy
