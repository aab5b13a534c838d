import ScriptTidy.Proofs.Names.Exports
import ScriptTidy.Proofs.Rule.Casing
import ScriptTidy.Proofs.Rule.UnusedVariables

/-!
# Exported names are kept

Under the setting that keeps exported names, no variable goes and nothing is renamed whose binding is marked as
exported. The mark is set when an export statement makes the first declaration of a name, in the region around the
statement. So a name that an export statement declares is left alone (`exported_names_are_kept`) if the first
declaration of its binding is such a one and the statement stands in no variable that goes. Another declaration in
front of the exported one takes the mark away (`redeclared_export_is_deleted`).
-/

namespace ScriptTidy

namespace Node

/-! ### The names of a declaration -/

/-- The patterns directly inside of a pattern. -/
def subpatterns (n : Node) : List Node :=
  match n.kind with
  | .objectPattern | .arrayPattern | .restPattern => n.properChildren
  | .pairPattern => n.children.filter (·.field = some .value)
  | .objectAssignmentPattern | .assignmentPattern => n.children.filter (·.field = some .left)
  | _ => []

/-- The names that a pattern binds. -/
inductive Binds : Node → Node → Prop
  | here {n : Node} : n.kind = .identifier ∨ n.kind = .shorthandPropertyIdentifierPattern → Binds n n
  | inside {n c m : Node} : c ∈ n.subpatterns → Binds c m → Binds n m

/-- The names that a declaration declares by itself: those in the patterns of its declarators, or that of the
function. -/
inductive Introduces : Node → Node → Prop
  | declarator {D d p m : Node} : D.IsDeclaration → d ∈ D.declarators → d.childByField? .name = some p → p.Binds m →
    Introduces D m
  | function {D m : Node} : D.kind.construct = .functionDeclaration → D.childByField? .name = some m →
    m.kind = .identifier → Introduces D m

variable {n c m p D : Node} {source : String}

private theorem mem_children_of_subpattern (h : c ∈ n.subpatterns) : c ∈ n.children := by
  unfold subpatterns at h
  split at h
  all_goals first | cases h | exact (List.mem_filter.1 h).1

/-- The patterns inside of a pattern are what is read as patterns there. -/
private theorem patternRole_of_subpattern (h : c ∈ n.subpatterns) (how : BindingKind) :
    Reading.patternRole how n c = some (.pattern how) := by
  unfold subpatterns at h
  split at h
  case h_7 => cases h
  all_goals
    rename_i hk
    have hc := (List.mem_filter.1 h).2
    simp_all [Reading.patternRole]

namespace Binds

theorem isPattern (h : n.Binds m) : Reading.isPattern n.kind = true := by
  cases h with
  | here hk => rcases hk with hk | hk <;> rw [hk] <;> rfl
  | inside hc _ =>
    unfold subpatterns at hc
    split at hc <;> rename_i hk
    all_goals first | cases hc | (rw [hk]; rfl)

theorem isIdentifier (h : n.Binds m) : m.kind.isIdentifier = true := by
  induction h with
  | here hk => rcases hk with hk | hk <;> rw [hk] <;> rfl
  | inside _ _ ih => exact ih

theorem mem_nodes (h : n.Binds m) : m ∈ n.nodes := by
  induction h with
  | here => exact mem_nodes_self _
  | inside hc _ ih => exact mem_nodes_of_child (mem_children_of_subpattern hc) ih

private theorem eq_of_identifier (h : n.Binds m) (hk : n.kind = .identifier) : n = m := by
  cases h with
  | here => rfl
  | inside hc _ =>
    unfold subpatterns at hc
    rw [hk] at hc
    cases hc

/-- Between a pattern and a name that it binds there are only patterns. -/
private theorem isPattern_between (h : n.Binds m) (hnested : n.IsNested) (hbyte : m.span.start < m.span.stop) {x : Node}
    (hx : x ∈ n.nodes) (hm : m ∈ x.nodes) : Reading.isPattern x.kind = true := by
  induction h with
  | @here n hk =>
    rw [eq_of_mem_nodes hx hm]
    exact isPattern (.here hk)
  | @inside n c m hc hbinds ih =>
    rcases Node.mem_nodes.1 hx with rfl | ⟨c', hc', hx'⟩
    · exact isPattern (.inside hc hbinds)
    · -- both children hold the name, and so are the same
      have hchild := mem_children_of_subpattern hc
      obtain rfl := hnested.child_unique hc' hchild (mem_nodes_trans hm hx') hbinds.mem_nodes hbyte
      exact ih (hnested.child hchild) hbyte hx' hm

end Binds

/-! ### Where the names stand in an outline -/

/-- What a child mentions, its parent mentions in the same region, if it opens none. -/
private theorem mem_outline_of_role {reading r : Reading} {o : Outline} (hplain : reading ≠ .exportedDeclaration)
    (hregion : (reading.settle n.kind).scopeKind? n.kind = none) (hc : c ∈ n.children)
    (hrole : (reading.settle n.kind).role source n c = some r) (ho : o ∈ c.outline source r) :
    o ∈ n.outline source reading := by
  have hstamp : ∀ os, reading.stamp os = os := by
    intro os
    unfold Reading.stamp
    split
    · exact absurd rfl hplain
    · rfl
  rw [outline_eq, hstamp, Reading.enclose, hregion]
  refine List.mem_append_right _ (List.mem_append_right _ (List.mem_flatMap.2 ⟨c, hc, ?_⟩))
  simpa [outlineAs, hrole] using ho

private theorem Binds.declare_mem (h : p.Binds m) (htext : m.text source ≠ "") (how : BindingKind) :
    ∃ form, .declare how (m.text source) ⟨m.span, form⟩ ∈ p.outline source (.pattern how) := by
  have hsettle : ∀ {n : Node}, n.Binds m → (Reading.pattern how).settle n.kind = .pattern how := by
    intro n hn
    simp [Reading.settle, hn.isPattern]
  induction h with
  | @here n hk =>
    have hopening : ∃ form, .declare how (n.text source) ⟨n.span, form⟩ ∈
        (Reading.pattern how).opening source n := by
      rcases hk with hk | hk <;> simp [Reading.opening, hk, Outline.declareNode, htext]
    obtain ⟨form, hform⟩ := hopening
    refine ⟨form, ?_⟩
    rw [outline_eq, hsettle (.here hk)]
    exact List.mem_append_right _ (List.mem_append_left _ hform)
  | @inside n c m hc hbinds ih =>
    obtain ⟨form, hform⟩ := ih htext hsettle
    have hn := hsettle (.inside hc hbinds)
    refine ⟨form, mem_outline_of_role (by simp) (by rw [hn]; rfl) (mem_children_of_subpattern hc) ?_ hform⟩
    rw [hn]
    exact patternRole_of_subpattern hc how

/-- A name that a declaration introduces is declared directly in its outline, as a variable of the declaration's kind
or as a function. -/
private theorem Introduces.declare_mem (h : D.Introduces m) (htext : m.text source ≠ "") :
    ∃ how form, .declare how (m.text source) ⟨m.span, form⟩ ∈ D.outline source .code ∧
      (how = .varName → D.IsDeclaration ∧ Reading.declaredKind source D = .varName) := by
  cases h with
  | @declarator d p _ hD hd hp hbinds =>
    obtain ⟨form, hform⟩ := hbinds.declare_mem htext (Reading.declaredKind source D)
    obtain ⟨hdD, hdk⟩ := mem_declarators.1 hd
    have hk : D.kind.construct = .declaration := by rcases hD with hk | hk <;> rw [hk] <;> rfl
    have hfield : p.field = some .name := by simpa using List.find?_some hp
    refine ⟨_, form, ?_, fun hvar => ⟨hD, hvar⟩⟩
    -- from the pattern to the declarator, and from there to the declaration
    refine mem_outline_of_role (by simp) (by simp [Reading.settle, Reading.scopeKind?, hk]) hdD (r := .declarator _)
      (by simp [Reading.settle, Reading.role, Reading.codeRole, hk, hdk]; rfl) ?_
    refine mem_outline_of_role (by simp) rfl (mem_children_of_field hp) ?_ hform
    simp [Reading.settle, Reading.role, hfield]
  | function hk hname =>
    refine ⟨.functionName, .plain, ?_, by simp⟩
    rw [outline_eq]
    refine List.mem_append_left _ (List.mem_append_left _ ?_)
    simp [Reading.settle, Reading.preamble, hk, hname, Outline.declareNode, htext]

end Node

/-! ### Names that a tree exports -/

/-- The declaration of an export statement, which is read in a region of some kind, introduces the name. -/
structure Tree.Exports (t : Tree) (kind : ScopeKind) (E D m : Node) : Prop where
  read : t.Reads kind .code E
  isExport : E.kind = .exportStatement
  child : D ∈ E.children
  field : D.field = some .declaration
  introduces : D.Introduces m
  text : m.text t.source ≠ ""

/-- What the declaration declares belongs to the region around it, which is of this kind: what is declared by `var`
belongs to a function or the file. -/
def Node.BelongsIn (source : String) (kind : ScopeKind) (D : Node) : Prop :=
  D.IsDeclaration → Reading.declaredKind source D = .varName → kind.isFunctionLike = true

instance (source : String) (kind : ScopeKind) (D : Node) : Decidable (D.BelongsIn source kind) :=
  inferInstanceAs (Decidable (_ → _ → _))

namespace Tree

variable {t : Tree} {kind : ScopeKind} {E D m : Node}

theorem Exports.stands (h : t.Exports kind E D m) : Outline.Stands [.exported (D.outline t.source .code)] kind .file
    (Node.outline.outlineAll t.source (fun _ => some .code) t.root.children) := by
  have hread : t.Reads kind .exportedDeclaration D := by
    have hrole : (Reading.code.settle E.kind).role t.source E D = some .exportedDeclaration := by
      simp [Reading.settle, Reading.role, Reading.codeRole, h.isExport, Kind.construct, Reading.exportRole, h.field]
    have hchild := h.read.child h.child hrole
    simpa [Reading.settle, Reading.innerKind, Reading.scopeKind?, h.isExport, Kind.construct] using hchild
  have hstands := hread.stands
  have houtline : D.outline t.source .exportedDeclaration = [.exported (D.outline t.source .code)] := by
    rw [Node.outline_eq, Node.outline_eq t.source .code]
    rfl
  rwa [houtline] at hstands

theorem Exports.exists_binding (h : t.Exports kind E D m) : ∃ (id : Nat) (b : Binding),
    (ScopeTree.ofTree t).bindings[id]? = some b ∧ ∃ s ∈ b.sites, s.span = m.span := by
  obtain ⟨how, form, hmem, -⟩ := h.introduces.declare_mem h.text
  obtain ⟨id, b, hb, hsite, -⟩ := ScopeTree.exists_exported h.stands hmem
  exact ⟨id, b, hb, _, hsite, rfl⟩

/-- A binding whose first site is an exported name of its region is exported. -/
theorem Exports.exported_of_first (h : t.Exports kind E D m) (hnested : t.root.IsNested)
    (hhome : D.BelongsIn t.source kind) {id : Nat} {b : Binding} (hb : (ScopeTree.ofTree t).bindings[id]? = some b)
    (hfirst : b.sites.head?.map (·.span) = some m.span) : b.exported = true := by
  obtain ⟨how, form, hmem, hvar⟩ := h.introduces.declare_mem h.text
  exact ScopeTree.exported_of_first hnested h.stands hmem
    (fun heq => hhome (hvar heq).1 (hvar heq).2) hb hfirst

end Tree

/-! ### What the mark protects -/

/-- The name at this place has a binding that is marked as exported. -/
def ScopeTree.IsPublic (t : ScopeTree) (span : Span) : Prop :=
  ∃ (id : Nat) (b : Binding), t.bindings[id]? = some b ∧ b.exported = true ∧ ∃ s ∈ b.sites, s.span = span

private theorem UnusedVariables.removableBinding?_eq_none {f : Facts} (hseparate : f.scopes.Separate)
    (hkeep : f.settings.keepExported = true) {name : Node} (h : f.scopes.IsPublic name.span) :
    removableBinding? f name = none := by
  rw [Option.eq_none_iff_forall_ne_some]
  intro id hid
  unfold removableBinding? at hid
  split at hid
  · obtain ⟨hat, hany⟩ := Option.filter_eq_some_iff.1 hid
    obtain ⟨b, hb, s, hs, hstart⟩ := hseparate.bindingAt hat
    obtain ⟨id', b', hb', hexported, s', hs', hspan⟩ := h
    obtain rfl := hseparate.eq_of_start hb hb' hs hs' (hstart.trans (congrArg Span.start hspan.symm))
    obtain rfl : b = b' := Option.some.inj (hb.symm.trans hb')
    simp [hb, hexported, hkeep] at hany
  · cases hid

namespace Casing

private theorem exists_plan {f : Facts} {taken : List String} {bs : List Binding} {r : Rename}
    (h : r ∈ renamesFrom f taken bs) : ∃ taken', plan f taken' r.binding = .ok r.new := by
  fun_induction renamesFrom f taken bs with
  | case1 => cases h
  | case2 taken b rest hb new hnew ih =>
    rcases List.mem_cons.1 h with rfl | h
    · exact ⟨taken, hnew⟩
    · exact ih h
  | case3 taken b rest hb obstacle hobstacle ih => exact ih h
  | case4 taken b rest hb ih => exact ih h

private theorem not_exported_of_mem_renames {f : Facts} (hkeep : f.settings.keepExported = true) {r : Rename}
    (h : r ∈ renames f) : r.binding.exported = false := by
  obtain ⟨taken, hplan⟩ := exists_plan h
  unfold plan at hplan
  dsimp only at hplan
  split at hplan
  · cases hplan
  · rename_i hnot
    simpa [hkeep] using hnot

/-- An edit is made at a site of a binding that gets a new name, or at a reference. -/
private theorem exists_rename_of_mem {f : Facts} {e : Edit} (h : e ∈ (propose f).edits) :
    ∃ r ∈ renames f, ∃ s, e.span = s.span ∧ (s ∈ r.binding.sites ∨ ∃ ref ∈ f.scopes.references, s = ref.site) := by
  rw [(propose_eq f).1] at h
  obtain ⟨r, hr, he⟩ := List.mem_flatMap.1 h
  obtain ⟨s, hs, rfl⟩ := List.mem_map.1 he
  refine ⟨r, hr, s, rfl, ?_⟩
  rcases List.mem_append.1 hs with hs | hs
  · exact .inl hs
  · obtain ⟨ref, href, rfl⟩ := List.mem_map.1 hs
    obtain ⟨k, -, hk⟩ := List.mem_filterMap.1 href
    exact .inr ⟨ref, Array.mem_of_getElem? hk, rfl⟩

/-- No rename touches a public name. -/
private theorem not_meets_of_isPublic {f : Facts} (hseparate : f.scopes.Separate)
    (hkeep : f.settings.keepExported = true) {span : Span} (h : f.scopes.IsPublic span) {e : Edit}
    (he : e ∈ (propose f).edits) : ¬ e.span.Meets span := by
  obtain ⟨id, b, hb, hexported, s, hs, rfl⟩ := h
  obtain ⟨r, hr, s', hspan, hs'⟩ := exists_rename_of_mem he
  rw [hspan]
  rcases hs' with hs' | ⟨ref, href, rfl⟩
  · obtain ⟨id', hb'⟩ := Array.getElem?_of_mem (binding_mem_of_mem_renames hr)
    by_cases hid : id' = id
    · rw [hid, hb] at hb'
      have hnot := not_exported_of_mem_renames hkeep hr
      rw [← Option.some.inj hb', hexported] at hnot
      cases hnot
    · exact (hseparate.bindings hb' hb hid s' hs' s hs).not_meets
  · exact (hseparate.references hb ref href s hs).symm.not_meets

end Casing

/-! ### Deletions around an exported name -/

namespace Node

/-- A declaration, or a node with an export statement inside. -/
def HoldsDeclaration (n : Node) : Prop :=
  n.IsDeclaration ∨ n.field = some .declaration ∨ ∃ m ∈ n.nodes, m.kind = .exportStatement

instance (n : Node) : Decidable n.HoldsDeclaration := inferInstanceAs (Decidable (_ ∨ _ ∨ _))

/-- What the grammars guarantee about export statements: the tree is nested, comments and identifiers are leaves, an
export statement has at most one declaration and no export statement beside it, and an export statement inside a
declaration of variables stands inside one of its declarators. -/
structure ExportsInOrder (n : Node) : Prop where
  nested : n.IsNested
  comments : n.CommentsAreLeaves
  identifiers : ∀ m ∈ n.nodes, m.kind.isIdentifier = true → m.children = []
  alone : ∀ e ∈ n.nodes, e.kind = .exportStatement →
    e.children.Pairwise fun a b => ¬ (a.HoldsDeclaration ∧ b.HoldsDeclaration)
  inside : ∀ D ∈ n.nodes, D.IsDeclaration → ∀ c ∈ D.children, ∀ m ∈ c.nodes, m.kind = .exportStatement →
    c.kind = .variableDeclarator

instance (n : Node) : Decidable n.ExportsInOrder :=
  decidable_of_iff (n.IsNested ∧ n.CommentsAreLeaves ∧
    (∀ m ∈ n.nodes, m.kind.isIdentifier = true → m.children = []) ∧
    (∀ e ∈ n.nodes, e.kind = .exportStatement →
      e.children.Pairwise fun a b => ¬ (a.HoldsDeclaration ∧ b.HoldsDeclaration)) ∧
    ∀ D ∈ n.nodes, D.IsDeclaration → ∀ c ∈ D.children, ∀ m ∈ c.nodes, m.kind = .exportStatement →
      c.kind = .variableDeclarator)
    ⟨fun ⟨h₁, h₂, h₃, h₄, h₅⟩ => ⟨h₁, h₂, h₃, h₄, h₅⟩, fun ⟨h₁, h₂, h₃, h₄, h₅⟩ => ⟨h₁, h₂, h₃, h₄, h₅⟩⟩

/-- An export statement holds declarations in one child only. -/
private theorem ExportsInOrder.eq_of_holds {n e a b : Node} (h : n.ExportsInOrder) (he : e ∈ n.nodes)
    (hk : e.kind = .exportStatement) (ha : a ∈ e.children) (hb : b ∈ e.children) (ha' : a.HoldsDeclaration)
    (hb' : b.HoldsDeclaration) : a = b :=
  eq_of_not_both (h.alone e he hk) ha hb ha' hb'

variable {D m : Node}

theorem Introduces.mem_nodes (h : D.Introduces m) : m ∈ D.nodes := by
  cases h with
  | declarator _ hd hp hbinds =>
    have hp' := mem_nodes_of_child (mem_children_of_field hp) hbinds.mem_nodes
    exact mem_nodes_of_child (mem_declarators.1 hd).1 hp'
  | function _ hname _ => exact child_mem_nodes (mem_children_of_field hname)

theorem Introduces.isIdentifier (h : D.Introduces m) : m.kind.isIdentifier = true := by
  cases h with
  | declarator _ _ _ hbinds => exact hbinds.isIdentifier
  | function _ _ hk => rw [hk]; rfl

private theorem Introduces.kind_ne (h : D.Introduces m) : D.kind ≠ .exportStatement := by
  intro hk
  cases h with
  | declarator hD => rcases hD with hk' | hk' <;> rw [hk] at hk' <;> cases hk'
  | function hD =>
    rw [hk] at hD
    cases hD

/-- Between a declaration and a name that it introduces there is no declaration of variables and no export
statement. -/
private theorem Introduces.none_between (h : D.Introduces m) (hnested : D.IsNested) (hleaf : m.children = [])
    (hbyte : m.span.start < m.span.stop) {x : Node} (hx : x ∈ D.nodes) (hne : x ≠ D) (hm : m ∈ x.nodes) :
    ¬ (x.IsDeclaration ∨ x.kind = .exportStatement) := by
  obtain ⟨c, hc, hxc⟩ := (Node.mem_nodes.1 hx).resolve_left hne
  cases h with
  | @declarator d p _ hD hd hp hbinds =>
    obtain ⟨hdD, hdk⟩ := mem_declarators.1 hd
    have hpd := mem_children_of_field hp
    obtain rfl := hnested.child_unique hc hdD (mem_nodes_trans hm hxc) (mem_nodes_of_child hpd hbinds.mem_nodes) hbyte
    rcases Node.mem_nodes.1 hxc with rfl | ⟨c', hc', hxc'⟩
    · simp [IsDeclaration, hdk]
    · -- inside of the declarator, the way goes through the pattern
      have hnested' := hnested.child hdD
      obtain rfl := hnested'.child_unique hc' hpd (mem_nodes_trans hm hxc') hbinds.mem_nodes hbyte
      have hpattern := hbinds.isPattern_between (hnested'.child hpd) hbyte hxc' hm
      rintro ((hk | hk) | hk) <;> rw [hk] at hpattern <;> cases hpattern
  | function hD hname hk =>
    have hmD := mem_children_of_field hname
    obtain rfl := hnested.child_unique hc hmD (mem_nodes_trans hm hxc) (mem_nodes_self m) hbyte
    obtain rfl := eq_of_mem_nodes_leaf hxc hleaf
    simp [IsDeclaration, hk]

end Node

namespace UnusedVariables

variable {f : Facts} {gone : List Nat}

private theorem not_goes_of_isPublic (gone : List Nat) (hseparate : f.scopes.Separate)
    (hkeep : f.settings.keepExported = true) {d p m : Node} (hp : d.childByField? .name = some p)
    (hbinds : p.Binds m) (h : f.scopes.IsPublic m.span) :
    (declarator f d).goes gone = false := by
  have hnone : (declarator f d).binding? = none := by
    simp only [declarator, hp, Option.bind_some]
    by_cases hk : p.kind = .identifier
    · rw [hbinds.eq_of_identifier hk]
      exact removableBinding?_eq_none hseparate hkeep h
    · rw [removableBinding?, if_neg fun hand => hk hand.1]
  rw [Declarator.goes, hnone]
  rfl

/-- An export statement inside of another statement stands inside one of its declarators. -/
private theorem Statement.Declares.exists_declarator {s : Statement} {D E : Node} (h : s.Declares f D)
    (horder : f.tree.root.ExportsInOrder) (hE : E.kind = .exportStatement) (hin : E ∈ s.outer.nodes)
    (hne : E ≠ s.outer) : ∃ x ∈ D.declarators, E ∈ x.nodes := by
  have hED : E ∈ D.nodes := by
    rcases h.outer_eq with houter | ⟨hk, hchild⟩
    · exact houter ▸ hin
    · obtain ⟨c, hc, hEc⟩ := (Node.mem_nodes.1 hin).resolve_left hne
      rwa [← horder.eq_of_holds h.outer_mem hk hc hchild (.inr (.inr ⟨E, hEc, hE⟩)) (.inl h.isDeclaration)]
  have hne' : E ≠ D := by
    rintro rfl
    rcases h.isDeclaration with hk | hk <;> rw [hE] at hk <;> cases hk
  obtain ⟨x, hx, hEx⟩ := (Node.mem_nodes.1 hED).resolve_left hne'
  have hxk := horder.inside D h.mem_root h.isDeclaration x hx E hEx hE
  exact ⟨x, Node.mem_declarators.2 ⟨hx, hxk⟩, hEx⟩

/-- The statement of a declaration is the export statement around it, or the declaration itself. -/
private theorem Statement.Declares.eq_of_exports {s : Statement} {D' : Node} (h : s.Declares f D')
    (horder : f.tree.root.ExportsInOrder) {kind : ScopeKind} {E D m : Node} (hexports : f.tree.Exports kind E D m)
    (houter : s.outer = E ∨ s.outer = D) : D' = D := by
  rcases houter with houter | houter <;> rcases h.outer_eq with heq | ⟨hk, hchild⟩
  · rcases h.isDeclaration with hk | hk <;> rw [← heq, houter, hexports.isExport] at hk <;> cases hk
  · rw [houter] at hchild
    exact horder.eq_of_holds hexports.read.mem_nodes hexports.isExport hchild hexports.child
      (.inl h.isDeclaration) (.inr (.inl hexports.field))
  · exact heq.symm.trans houter
  · exact absurd (houter ▸ hk) hexports.introduces.kind_ne

/-- A cut touches no public name that an export statement declares, if the statement stands in no declarator that
goes. -/
private theorem Cut.not_meets_export {r : Span} (hcut : Cut f gone r) (horder : f.tree.root.ExportsInOrder)
    (hplaced : f.tree.root.IsPlaced) (hseparate : f.scopes.Separate) (hkeep : f.settings.keepExported = true)
    {kind : ScopeKind} {E D m : Node} (hexports : f.tree.Exports kind E D m) (hpublic : f.scopes.IsPublic m.span)
    (hstays : ∀ s ∈ statements f, ∀ x ∈ s.declarators, x.goes gone = true → E ∉ x.node.nodes) :
    ¬ r.Meets m.span := by
  intro hmeets
  have hbyte := Node.lt_of_text hexports.text
  have hE := hexports.read.mem_nodes
  have hnested := horder.nested.of_mem hE
  have hmD := hexports.introduces.mem_nodes
  have hmE : m ∈ E.nodes := Node.mem_nodes_of_child hexports.child hmD
  have hm : m ∈ f.tree.root.nodes := Node.mem_nodes_trans hmE hE
  have hidentifier := hexports.introduces.isIdentifier
  have hleaf := horder.identifiers m hm hidentifier
  have hmk : m.kind ≠ .comment := by
    intro hk
    rw [hk] at hidentifier
    cases hidentifier
  -- the cut belongs to a statement around the name, all of whose declarators around the name go
  obtain ⟨s, hs, D', hD', hmouter, hgoes⟩ := hcut.around_leaf horder.nested horder.comments hplaced hm hleaf hmk hmeets
  have hown : D' ≠ D := by
    rintro rfl
    cases hexports.introduces with
    | @declarator d p _ _ hd hp hbinds =>
      have hmd := Node.mem_nodes_of_child (Node.mem_children_of_field hp) hbinds.mem_nodes
      have hstay := not_goes_of_isPublic gone hseparate hkeep hp hbinds hpublic
      rw [hgoes d hd hmd] at hstay
      cases hstay
    | function hk =>
      rcases hD'.isDeclaration with hk' | hk' <;> rw [hk'] at hk <;> cases hk
  have houter : s.outer ≠ E ∧ s.outer ≠ D :=
    not_or.1 fun houter => hown (hD'.eq_of_exports horder hexports houter)
  have hmeets' := (Span.meets_of_covers ((horder.nested.of_mem hD'.outer_mem).covers hmouter) hbyte).symm
  rcases horder.nested.inside_of_meets hE hD'.outer_mem (hmeets'.of_covers (hnested.covers hmE)) with hin | hin
  · -- the export statement stands inside of a declarator, which goes with the name
    obtain ⟨x, hx, hEx⟩ := hD'.exists_declarator horder hexports.isExport hin (Ne.symm houter.1)
    refine hstays s hs (declarator f x) ?_ (hgoes x hx (Node.mem_nodes_trans hmE hEx)) hEx
    rw [hD'.declarators_eq]
    exact List.mem_map_of_mem hx
  · -- the statement stands between the exported declaration and the name
    obtain ⟨c, hc, hoc⟩ := (Node.mem_nodes.1 hin).resolve_left houter.1
    obtain rfl := hnested.child_unique hc hexports.child (Node.mem_nodes_trans hmouter hoc) hmD hbyte
    exact hexports.introduces.none_between (hnested.child hc) hleaf hbyte hoc houter.2 hmouter
      (hD'.outer_kind.imp id And.left)

end UnusedVariables

namespace ExportedNames

open UnusedVariables

/-- Where exported names are to be kept, no edit of the rules on unused variables and on names touches a name that an
export statement declares, if the binding of the name was first declared by an export statement, for the region around
that statement, and if the export statement stands in no variable that goes. -/
theorem exported_names_are_kept (bare : BareNode) (source : String) (dialect : Dialect) (settings : Settings)
    (horder : (bare.place 0).ExportsInOrder) (hkeep : settings.keepExported = true) (kind : ScopeKind) (E D m : Node) :
    let t : Tree := ⟨bare.place 0, source, dialect⟩
    let f := Facts.ofTree t settings
    let gone := removed f.scopes.referencesTo (candidates (statements f))
    t.Exports kind E D m →
    (∀ b ∈ f.scopes.bindings, (∃ s ∈ b.sites, s.span = m.span) → ∃ kind' E' D' m', t.Exports kind' E' D' m' ∧
      D'.BelongsIn source kind' ∧ b.sites.head?.map (·.span) = some m'.span) →
    (∀ s ∈ statements f, ∀ x ∈ s.declarators, x.goes gone = true → E ∉ x.node.nodes) →
    ∀ e ∈ (UnusedVariables.propose f).edits ++ (Casing.propose f).edits, ¬ e.span.Meets m.span := by
  intro t f gone hexports hfirst hstays e he
  have hseparate : f.scopes.Separate := ScopeTree.separate_ofTree horder.nested
  have hpublic : f.scopes.IsPublic m.span := by
    obtain ⟨id, b, hb, hsite⟩ := hexports.exists_binding
    obtain ⟨kind', E', D', m', hexports', hhome, hhead⟩ := hfirst b (Array.mem_of_getElem? hb) hsite
    exact ⟨id, b, hb, hexports'.exported_of_first horder.nested hhome hb hhead, hsite⟩
  rcases List.mem_append.1 he with he | he
  · have hplaced : f.tree.root.IsPlaced := BareNode.isPlaced_place bare 0 horder.nested
    obtain ⟨r, rfl, hcut⟩ := cut_of_mem_propose he
    exact hcut.not_meets_export horder hplaced hseparate hkeep hexports hpublic hstays
  · exact Casing.not_meets_of_isPublic hseparate hkeep hpublic he

/-- A name is exported and then declared again, and another variable has no use. -/
def exportedFirst : BareNode :=
  .regular .program none 0 45
    [.exporting 0 20 [.byVar (some .declaration) 7 20 [.initialized 11 15 (.digit 18)]],
     .byVar none 21 34 [.initialized 25 29 (.digit 32)], .oneByVar none 35]

/-- The exported name keeps its declaration and its spelling, although nothing uses it and it is not in camel case. -/
theorem exported_names_are_kept_redeclared :
    let t : Tree := ⟨exportedFirst.place 0, "export var my_a = 2; var my_a = 1; var b = 3;", .javascript⟩
    let f := Facts.ofTree t .standard
    (exportedFirst.place 0).ExportsInOrder ∧ (∃ E D m, t.Exports .file E D m ∧ m.span = ⟨11, 15⟩) ∧
    (UnusedVariables.propose f).edits = [.delete ⟨34, 45⟩] ∧
    ∀ e ∈ (UnusedVariables.propose f).edits ++ (Casing.propose f).edits, ¬ e.span.Meets ⟨11, 15⟩ := by
  intro t f
  have horder : (exportedFirst.place 0).ExportsInOrder := by decide +kernel
  have hexports : ∃ E D m, t.Exports .file E D m ∧ m.span = ⟨11, 15⟩ ∧ D.BelongsIn t.source .file := by
    refine ⟨_, _, .mk ⟨.identifier, some .name, true, false, ⟨11, 15⟩, 10⟩ [],
      ⟨.top (.head _), rfl, .tail _ (.head _), rfl, ?_, by decide +kernel⟩, rfl, by decide +kernel⟩
    exact .declarator (.inr rfl) (.head _) rfl (.here (.inl rfl))
  obtain ⟨E, D, m, hm, hspan, hhome⟩ := hexports
  have hfirst : ∀ b ∈ f.scopes.bindings, (∃ s ∈ b.sites, s.span = ⟨11, 15⟩) →
      b.sites.head?.map (·.span) = some ⟨11, 15⟩ := by decide +kernel
  have hnone : ∀ s ∈ statements f, ∀ x ∈ s.declarators, ∀ n ∈ x.node.nodes, n.kind ≠ .exportStatement := by
    decide +kernel
  refine ⟨horder, ⟨E, D, m, hm, hspan⟩, by decide +kernel, ?_⟩
  rw [← hspan] at hfirst ⊢
  exact exported_names_are_kept exportedFirst _ _ .standard horder rfl .file E D m hm
    (fun b hb hsite => ⟨.file, E, D, m, hm, hhome, hfirst b hb hsite⟩)
    (fun s hs x hx _ hE => hnone s hs x hx E hE hm.isExport)

/-- A name is declared, and then declared again by an export statement. -/
def exportedLast : BareNode :=
  .regular .program none 0 28 [.oneByVar none 0, .exporting 11 28 [.oneByVar (some .declaration) 18]]

/-- The mark goes with the first declaration, which is not exported. So the rule on unused variables deletes both
declarations, and with them the exported name, although exported names are to be kept. -/
theorem redeclared_export_is_deleted :
    let t : Tree := ⟨exportedLast.place 0, "var a = 1; export var a = 2;", .javascript⟩
    let f := Facts.ofTree t .standard
    f.settings.keepExported = true ∧ (exportedLast.place 0).ExportsInOrder ∧
    (∃ E D m, t.Exports .file E D m ∧ m.span = ⟨22, 23⟩) ∧
    ∃ e ∈ (UnusedVariables.propose f).edits, e.span.Meets ⟨22, 23⟩ := by
  intro t f
  refine ⟨rfl, by decide +kernel, ?_, ?_⟩
  · refine ⟨_, _, .mk ⟨.identifier, some .name, true, false, ⟨22, 23⟩, 21⟩ [],
      ⟨.top (.tail _ (.head _)), rfl, .tail _ (.head _), rfl, ?_, by decide +kernel⟩, rfl⟩
    exact .declarator (.inr rfl) (.head _) rfl (.here (.inl rfl))
  · have hedits : (UnusedVariables.propose f).edits = [.delete ⟨0, 10⟩, .delete ⟨10, 28⟩] := by decide +kernel
    rw [hedits]
    exact ⟨.delete ⟨10, 28⟩, by simp, 22, rfl, rfl⟩

end ExportedNames

end ScriptTidy
