import ScriptTidy.Proofs.Names.Exports
import ScriptTidy.Proofs.Names.Meanings

/-!
# What names mean around a node

The references inside of a node mean what `Outline.meanings` says of the node's own outline, once it is known what names
mean around the node. `Tree.Around` says that some meanings are those around a node. They are found on the way from the
root to the node: one lemma for each way in which a node is read inside of another (`Around.top`, `Around.child`,
`Around.name`), and from these the existence for all nodes that are read (`Reads.exists_around`).

Places tell nodes apart: what a node mentions in the place of a child that it reads is what the child mentions
(`meaning_in_child`, `declared_through_child`).
-/

namespace ScriptTidy

namespace Outline

open declared meanings

/-! ### Declarations and meanings by their places -/

private theorem declaredAll_flatMap {α : Type} (accepts : BindingKind → Bool) (xs : List α) (f : α → List Outline) :
    declaredAll accepts (xs.flatMap f) = xs.flatMap fun x => declaredAll accepts (f x) := by
  induction xs with
  | nil => rfl
  | cons x xs ih => simp [List.flatMap_cons, ih]

private theorem meaningsAll_flatMap {α : Type} (outer : String → List Site) (xs : List α) (f : α → List Outline) :
    meaningsAll outer (xs.flatMap f) = xs.flatMap fun x => meaningsAll outer (f x) := by
  induction xs with
  | nil => rfl
  | cons x xs ih => simp [List.flatMap_cons, ih]

@[simp] theorem declaredAll_stamp (accepts : BindingKind → Bool) (r : Reading) (parts : List Outline) :
    declaredAll accepts (r.stamp parts) = declaredAll accepts parts := by
  unfold Reading.stamp
  split <;> simp [declaredAll, declared]

@[simp] theorem meaningsAll_stamp (outer : String → List Site) (r : Reading) (parts : List Outline) :
    meaningsAll outer (r.stamp parts) = meaningsAll outer parts := by
  unfold Reading.stamp
  split <;> simp [meaningsAll, meanings]

/-- A region that accepts more gets more. -/
theorem declared_mono : ∀ (o : Outline) {accepts accepts' : BindingKind → Bool},
    (∀ how, accepts how = true → accepts' how = true) → o.declared accepts ⊆ o.declared accepts'
  | declare how name site, accepts, accepts', h => by
    by_cases haccepts : accepts how = true
    · simp [declared, haccepts, h how haccepts]
    · simp [declared, haccepts]
  | refer name site, accepts, accepts', _ => List.Subset.refl _
  | scope kind span parts, accepts, accepts', h => declaredAll_mono parts fun how hhow => by
    simp only [Bool.and_eq_true] at hhow ⊢
    exact ⟨hhow.1, h how hhow.2⟩
  | exported parts, accepts, accepts', h => declaredAll_mono parts h
where
  declaredAll_mono : ∀ (os : List Outline) {accepts accepts' : BindingKind → Bool},
      (∀ how, accepts how = true → accepts' how = true) → declaredAll accepts os ⊆ declaredAll accepts' os
    | [], _, _, _ => List.Subset.refl _
    | o :: os, _, _, h => List.append_subset.2
        ⟨List.Subset.trans (declared_mono o h) (List.subset_append_left _ _),
          List.Subset.trans (declaredAll_mono os h) (List.subset_append_right _ _)⟩

/-- What is declared is mentioned. -/
theorem place_of_declared : ∀ (o : Outline) {accepts : BindingKind → Bool} {x : String × Site},
    x ∈ o.declared accepts → x.2.span ∈ o.mentions.map Mention.span
  | declare how name site, accepts, x, h => by
    unfold declared at h
    split at h
    · rw [List.mem_singleton.1 h]
      simp [mentions, Mention.span]
    · cases h
  | refer name site, accepts, x, h => absurd h List.not_mem_nil
  | scope kind span parts, accepts, x, h => place_of_declaredAll parts h
  | exported parts, accepts, x, h => place_of_declaredAll parts h
where
  place_of_declaredAll : ∀ (os : List Outline) {accepts : BindingKind → Bool} {x : String × Site},
      x ∈ declaredAll accepts os → x.2.span ∈ places os
    | [], _, _, h => absurd h List.not_mem_nil
    | o :: os, accepts, x, h => by
      rw [places, mentions.mentionsAll, List.map_append, List.mem_append]
      rcases List.mem_append.1 h with h | h
      · exact .inl (place_of_declared o h)
      · exact .inr (place_of_declaredAll os h)

/-- Inside a region, a name means places where the region declares it, or what it means outside. -/
private theorem inside_cases (kind : ScopeKind) (parts : List Outline) (outer : String → List Site) (name : String) :
    inside kind parts outer name = outer name ∨ inside kind parts outer name ≠ [] ∧
      ∀ s ∈ inside kind parts outer name, (name, s) ∈ declaredAll kind.accepts parts := by
  unfold inside
  split
  · exact .inl rfl
  · exact .inr ⟨‹_›, fun s hs => mem_sitesOf.1 hs⟩

/-- A reference means what its name means around the outline, or something that the outline declares in a region. -/
theorem meaning_cases : ∀ (o : Outline) {outer : String → List Site} {m : Meaning}, m ∈ o.meanings outer →
    m.site.span ∈ o.mentions.map Mention.span ∧
      (m.sites = outer m.name ∨ m.sites ≠ [] ∧ ∀ s ∈ m.sites, s.span ∈ o.mentions.map Mention.span)
  | declare how name site, outer, m, h => absurd h List.not_mem_nil
  | refer name site, outer, m, h => by
    rw [List.mem_singleton.1 h]
    exact ⟨by simp [mentions, Mention.span], .inl rfl⟩
  | scope kind span parts, outer, m, h => by
    obtain ⟨hplace, hsites⟩ := meaning_casesAll parts h
    refine ⟨hplace, ?_⟩
    rcases hsites with hsites | hsites
    · rcases inside_cases kind parts outer m.name with houter | ⟨hne, hdeclared⟩
      · exact .inl (hsites.trans houter)
      · rw [hsites]
        exact .inr ⟨hne, fun s hs => place_of_declared.place_of_declaredAll parts (hdeclared s hs)⟩
    · exact .inr hsites
  | exported parts, outer, m, h => meaning_casesAll parts h
where
  meaning_casesAll : ∀ (os : List Outline) {outer : String → List Site} {m : Meaning}, m ∈ meaningsAll outer os →
      m.site.span ∈ places os ∧ (m.sites = outer m.name ∨ m.sites ≠ [] ∧ ∀ s ∈ m.sites, s.span ∈ places os)
    | [], _, _, h => absurd h List.not_mem_nil
    | o :: os, outer, m, h => by
      have hfirst : o.mentions.map Mention.span ⊆ places (o :: os) := by
        simp [places, mentions.mentionsAll]
      have hrest : places os ⊆ places (o :: os) := by
        simp [places, mentions.mentionsAll]
      rcases List.mem_append.1 h with h | h
      · obtain ⟨hplace, hsites⟩ := meaning_cases o h
        exact ⟨hfirst hplace, hsites.imp_right fun hs => ⟨hs.1, fun s hmem => hfirst (hs.2 s hmem)⟩⟩
      · obtain ⟨hplace, hsites⟩ := meaning_casesAll os h
        exact ⟨hrest hplace, hsites.imp_right fun hs => ⟨hs.1, fun s hmem => hrest (hs.2 s hmem)⟩⟩

/-- All that some outlines declare for a region around them. -/
def declarations (os : List Outline) : List (String × Site) := declaredAll (fun _ => true) os

private theorem declarations_of_declared {accepts : BindingKind → Bool} {os : List Outline} {x : String × Site}
    (h : x ∈ declaredAll accepts os) : x ∈ declarations os :=
  declared_mono.declaredAll_mono os (fun _ _ => rfl) h

theorem place_of_declaration {os : List Outline} {x : String × Site} (h : x ∈ declarations os) :
    x.2.span ∈ places os :=
  place_of_declared.place_of_declaredAll os h

theorem mem_declarations_append {os ps : List Outline} {x : String × Site} :
    x ∈ declarations (os ++ ps) ↔ x ∈ declarations os ∨ x ∈ declarations ps := by
  simp [declarations]

/-- A region inside passes some of its declarations on. -/
private theorem declarations_enclose_subset (r : Reading) (n : Node) (parts : List Outline) :
    declarations (r.enclose n parts) ⊆ declarations parts := by
  unfold Reading.enclose
  split
  · intro x hx
    rw [declarations, declaredAll, declaredAll_nil, List.append_nil] at hx
    exact declarations_of_declared hx
  · exact List.Subset.refl _

end Outline

/-! ### Inside of a node -/

open Outline.meanings (meaningsAll)
open Outline (declarations places)

namespace Node

variable {n c : Node} {source : String} {reading r' : Reading} {outer : String → List Site}

/-- What names mean inside of a node, when they have the meanings `outer` around it. -/
def inward (source : String) (r : Reading) (n : Node) (outer : String → List Site) : String → List Site :=
  match r.scopeKind? n.kind with
  | some kind => Outline.inside kind (n.outlineParts source r) outer
  | none => outer

private theorem inward_cases (source : String) (r : Reading) (n : Node) (outer : String → List Site) (name : String) :
    n.inward source r outer name = outer name ∨
      ∀ s ∈ n.inward source r outer name, (name, s) ∈ declarations (n.outlineParts source r) := by
  unfold inward
  cases r.scopeKind? n.kind with
  | some kind =>
    exact (Outline.inside_cases kind _ outer name).imp_right fun h s hs => Outline.declarations_of_declared (h.2 s hs)
  | none => exact .inl rfl

private theorem meaningsAll_outline (source : String) (reading : Reading) (n : Node) (outer : String → List Site) :
    meaningsAll outer (n.outline source reading) =
      meaningsAll outer ((reading.settle n.kind).preamble source n ++ n.outlineName source (reading.settle n.kind)) ++
        meaningsAll (n.inward source (reading.settle n.kind) outer)
          (n.outlineParts source (reading.settle n.kind)) := by
  rw [outline_eq, Outline.meaningsAll_stamp, Outline.meaningsAll_append]
  congr 1
  unfold Reading.enclose inward
  cases (reading.settle n.kind).scopeKind? n.kind with
  | some kind => simp [meaningsAll, Outline.meanings]
  | none => rfl

namespace IsNested

variable (h : n.IsNested) (hc : c ∈ n.children) (hrole : (reading.settle n.kind).role source n c = some r')
include h hc hrole

theorem not_covers_outside {p : Span} (hp : p ∈ places
    ((reading.settle n.kind).preamble source n ++ n.outlineName source (reading.settle n.kind))) :
    ¬ c.span.covers p = true :=
  h.not_covers_own hc hrole (by
    rw [Reading.own, Outline.places_append]
    exact List.mem_append_left _ hp)

private theorem not_covers_opening {p : Span} (hp : p ∈ places ((reading.settle n.kind).opening source n)) :
    ¬ c.span.covers p = true :=
  h.not_covers_own hc hrole (by
    rw [Reading.own, Outline.places_append]
    exact List.mem_append_right _ hp)

/-- What a node declares inside of a child, the child declares. -/
private theorem declared_by_child {x : String × Site}
    (hx : x ∈ declarations (n.outlineParts source (reading.settle n.kind))) (hin : c.span.covers x.2.span = true) :
    x ∈ declarations (c.outline source r') := by
  rw [outlineParts, Outline.mem_declarations_append] at hx
  rcases hx with hx | hx
  · exact absurd hin (h.not_covers_opening hc hrole (Outline.place_of_declaration hx))
  · rw [declarations, Outline.declaredAll_flatMap] at hx
    obtain ⟨d, hd, hx⟩ := List.mem_flatMap.1 hx
    obtain rfl := h.eq_of_place hc hd (Outline.place_of_declaration hx) hin
    rwa [outlineAs, hrole] at hx

/-- Inside of a child, a node declares for a region around it only what the child declares. -/
theorem declared_through_child {x : String × Site} (hx : x ∈ declarations (n.outline source reading))
    (hin : c.span.covers x.2.span = true) : x ∈ declarations (c.outline source r') := by
  rw [outline_eq, declarations, Outline.declaredAll_stamp, ← declarations, Outline.mem_declarations_append] at hx
  rcases hx with hx | hx
  · exact absurd hin (h.not_covers_outside hc hrole (Outline.place_of_declaration hx))
  · exact h.declared_by_child hc hrole (Outline.declarations_enclose_subset _ n _ hx) hin

/-- The references of a node inside of a child are those of the child. -/
theorem meaning_in_child {m : Meaning} (hm : m ∈ meaningsAll outer (n.outline source reading))
    (hin : c.span.covers m.site.span = true) :
    m ∈ meaningsAll (n.inward source (reading.settle n.kind) outer) (c.outline source r') := by
  have hplace : ∀ {outer' : String → List Site} {os : List Outline}, m ∈ meaningsAll outer' os →
      m.site.span ∈ places os := fun hm => (Outline.meaning_cases.meaning_casesAll _ hm).1
  rw [meaningsAll_outline, List.mem_append] at hm
  rcases hm with hm | hm
  · exact absurd hin (h.not_covers_outside hc hrole (hplace hm))
  rw [outlineParts, Outline.meaningsAll_append, List.mem_append] at hm
  rcases hm with hm | hm
  · exact absurd hin (h.not_covers_opening hc hrole (hplace hm))
  · rw [Outline.meaningsAll_flatMap] at hm
    obtain ⟨d, hd, hm⟩ := List.mem_flatMap.1 hm
    obtain rfl := h.eq_of_place hc hd (hplace hm) hin
    rwa [outlineAs, hrole] at hm

end IsNested

end Node

/-! ### Around a node -/

namespace Tree

variable {t : Tree} {kind : ScopeKind} {r r' : Reading} {n c : Node} {outer : String → List Site}

/-- Names have the meanings `outer` around a node that is read in this way: the references inside of it have theirs from
there, and what a name means that is declared inside of it, the node declares. -/
structure Around (t : Tree) (r : Reading) (n : Node) (outer : String → List Site) : Prop where
  refers : ∀ {m : Meaning}, m ∈ t.outline.meanings (fun _ => []) → n.span.covers m.site.span = true →
    m ∈ meaningsAll outer (n.outline t.source r)
  declares : ∀ {name : String} {s : Site}, s ∈ outer name → n.span.covers s.span = true →
    (name, s) ∈ declarations (n.outline t.source r)

/-- From a node to a child that is read inside of it. -/
theorem Around.child (h : Around t r n outer) (hn : n.IsNested) (hc : c ∈ n.children)
    (hrole : (r.settle n.kind).role t.source n c = some r') :
    Around t r' c (n.inward t.source (r.settle n.kind) outer) := by
  have hcovers := hn.covers_child hc
  constructor
  · intro m hm hin
    exact hn.meaning_in_child hc hrole (h.refers hm (Span.covers_trans hcovers hin)) hin
  · intro name s hs hin
    rcases n.inward_cases t.source (r.settle n.kind) outer name with heq | hdeclared
    · rw [heq] at hs
      exact hn.declared_through_child hc hrole (h.declares hs (Span.covers_trans hcovers hin)) hin
    · exact hn.declared_by_child hc hrole (hdeclared s hs) hin

/-- From a method to its computed name, which is read in front of the method's region. -/
theorem Around.name (h : Around t r n outer) (hn : n.IsNested) (hreads : (r.settle n.kind).readsName n = true)
    (hname : n.childByField? .name = some c) : Around t .code c outer := by
  have hcovers := hn.covers_child (Node.mem_children_of_field hname)
  constructor
  · intro m hm hin
    have hmem := h.refers hm (Span.covers_trans hcovers hin)
    rw [Node.meaningsAll_outline, Node.preamble_of_readsName hreads, Node.outlineName_of_readsName hreads hname,
      List.nil_append, List.mem_append] at hmem
    rcases hmem with hmem | hmem
    · exact hmem
    · exact absurd hin (hn.not_covers_parts hreads hname (Outline.meaning_cases.meaning_casesAll _ hmem).1)
  · intro name s hs hin
    have hmem := h.declares hs (Span.covers_trans hcovers hin)
    rw [Node.outline_eq, declarations, Outline.declaredAll_stamp, ← declarations, Node.preamble_of_readsName hreads,
      Node.outlineName_of_readsName hreads hname, List.nil_append, Outline.mem_declarations_append] at hmem
    rcases hmem with hmem | hmem
    · exact hmem
    · exact absurd hin (hn.not_covers_parts hreads hname
        (Outline.place_of_declaration (Outline.declarations_enclose_subset _ n _ hmem)))

/-- From the root to a child. -/
theorem Around.top (h : t.root.IsNested) (hc : c ∈ t.root.children) :
    Around t .code c
      (Outline.inside .file (t.root.children.flatMap fun c => c.outline t.source .code) fun _ => []) := by
  have hparts : Node.outline.outlineAll t.source (fun _ => some .code) t.root.children =
      t.root.children.flatMap fun c => c.outline t.source .code := by
    rw [Node.outlineAll_eq_flatMap]
    rfl
  have houtline : ∀ d : Node, Node.outlineAs t.source (fun _ => some .code) d = d.outline t.source .code := fun _ => rfl
  constructor
  · intro m hm hin
    rw [Tree.outline, hparts, Outline.meanings, Outline.meaningsAll_flatMap] at hm
    obtain ⟨d, hd, hm⟩ := List.mem_flatMap.1 hm
    have hplace := (Outline.meaning_cases.meaning_casesAll _ hm).1
    rw [← houtline] at hplace
    rwa [← h.eq_of_place hc hd hplace hin]
  · intro name s hs hin
    rcases Outline.inside_cases .file (t.root.children.flatMap fun c => c.outline t.source .code) (fun _ => []) name
      with heq | ⟨-, hdeclared⟩
    · rw [heq] at hs
      cases hs
    · have hx := Outline.declarations_of_declared (hdeclared s hs)
      rw [declarations, Outline.declaredAll_flatMap] at hx
      obtain ⟨d, hd, hx⟩ := List.mem_flatMap.1 hx
      have hplace := Outline.place_of_declaration hx
      rw [← houtline] at hplace
      rwa [← h.eq_of_place hc hd hplace hin]

/-- Around every node that is read, names have some meanings. -/
theorem Reads.exists_around (h : t.Reads kind r n) (hnested : t.root.IsNested) : ∃ outer, Around t r n outer := by
  induction h with
  | top hc => exact ⟨_, .top hnested hc⟩
  | child hn hc hrole ih =>
    obtain ⟨outer, houter⟩ := ih
    exact ⟨_, houter.child (hnested.of_mem hn.mem_nodes) hc hrole⟩
  | name hn hreads hname ih =>
    obtain ⟨outer, houter⟩ := ih
    exact ⟨outer, houter.name (hnested.of_mem hn.mem_nodes) hreads hname⟩

end Tree

end ScriptTidy
