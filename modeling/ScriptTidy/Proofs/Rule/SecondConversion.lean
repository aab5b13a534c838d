import ScriptTidy.Proofs.Names.SofterWalk
import ScriptTidy.Proofs.Rule.Settled

/-!
# A second look at `var`

When the rule on bindings has put `let` in the place of some keywords `var`, it finds nothing more to do
(`second_conversion_finds_nothing`). That takes an argument, because a declaration in the computed name of a method may
leave its function by the change, and then references may come to mean something else. What speaks against a declaration
that stays is kept all the same (`obstacle?_of_softens`). A name that is not declared just once by `var` has no changed
declaration among its sites, and so all of them again. And a reference in front of the single declaration of its name
means that declaration again, unless the name is declared more than once by then.
-/

namespace ScriptTidy

namespace Bindings

variable {f f' : Facts} {n m : Node} {id : Nat}

/-- What is declared at the start of the span is declared by `var`, and only there. -/
def IsDeclaredOnce (t : ScopeTree) (span : Span) : Prop :=
  ∀ (id : Nat) (b : Binding), t.bindingAt? span = some id → t.bindings[id]? = some b →
    b.kind = .varName ∧ b.sites.length ≤ 1

/-- A list with a member and no more than one is that member. -/
private theorem eq_singleton_of_mem {α : Type} {xs : List α} {x : α} (hx : x ∈ xs) (hlength : xs.length ≤ 1) :
    xs = [x] := by
  obtain ⟨y, rfl⟩ := List.length_eq_one_iff.1 (Nat.le_antisymm hlength (List.length_pos_of_mem hx))
  rw [List.mem_singleton.1 hx]

/-! ### The names of a declaration -/

theorem mem_patternIdentifiers : m ∈ patternIdentifiers n ↔
    ∃ d ∈ n.children, d.kind = .variableDeclarator ∧ ∃ c, d.childByField? .name = some c ∧ m ∈ c.declarable := by
  simp only [patternIdentifiers, List.mem_flatMap, List.mem_filter, decide_eq_true_eq, and_assoc]
  refine exists_congr fun d => and_congr_right fun _ => and_congr_right fun _ => ?_
  cases d.childByField? .name <;> simp [Node.declarable]

/-- The names of a declaration whose keyword is replaced are declared just there. -/
private theorem isDeclaredOnce_of_converts (hnested : f.tree.root.IsNested) (hwords : f.tree.WordsAreLeaves)
    (hname : ∀ d ∈ f.tree.root.nodes, d.kind = .variableDeclarator →
      (d.children.filter (·.field = some .name)).length ≤ 1)
    (hn : n ∈ f.tree.root.nodes) (h : converts f n = true) {d c : Node} (hd : d ∈ n.children)
    (hk : d.kind = .variableDeclarator) (hc : c ∈ d.children) (hfield : c.field = some .name) (hm : m ∈ c.declarable) :
    IsDeclaredOnce f.scopes m.span := by
  obtain ⟨v, -, rfl, hnone⟩ := visit_of_converts hnested hwords hn h
  have honly := hname d (Node.mem_nodes_trans (Node.child_mem_nodes hd) hn) hk
  have hpattern : m ∈ patternIdentifiers v.node :=
    mem_patternIdentifiers.2 ⟨d, hd, hk, c, Node.childByField?_of_only honly hc hfield, hm⟩
  intro id b hid hb
  have hbinding := (obstacle?_eq_none_iff.1 hnone).2.2 m hpattern id hid
  exact (bindingObstacle?_eq_none_iff.1 hbinding).1 b hb

/-! ### What speaks against a declaration afterwards -/

section Softens

variable (hf : f.scopes = .ofTree f.tree) (hf' : f'.scopes = .ofTree f'.tree)
  (S : f.tree.Softens (IsDeclaredOnce f.scopes) f'.tree)
include hf hf' S

/-- A binding is declared once, by `var`, if that is so afterwards of every binding with all of its sites. -/
private theorem isDeclaredOnce_of_softens {b : Binding} (hb : f.scopes.bindings[id]? = some b)
    (h : ∀ (id' : Nat) (b' : Binding), f'.scopes.bindings[id']? = some b' → b.sites ⊆ b'.sites →
      b'.kind = .varName ∧ b'.sites.length ≤ 1) : b.kind = .varName ∧ b.sites.length ≤ 1 := by
  rw [hf] at hb
  by_contra hnot
  have hfirm : ∀ s ∈ b.sites, ¬ IsDeclaredOnce f.scopes s.span := by
    intro s hs honce
    rw [hf] at honce
    exact hnot (honce id b (ScopeTree.bindingAt?_eq S.nested hb hs rfl) hb)
  obtain ⟨id', b', hb', hsites, hkind⟩ := S.exists_binding hb hfirm
  obtain ⟨hvar, hlength⟩ := h id' b' (by rw [hf']; exact hb') hsites
  have hle : b.sites.length ≤ b'.sites.length :=
    (((ScopeTree.separate_ofTree S.nested).nodup_sites hb).subperm hsites).length_le
  have hsame : b'.kind = b.kind := hkind.resolve_right (by omega)
  exact hnot ⟨hsame ▸ hvar, by omega⟩

/-- What refers to a name that is declared by `var` in a single place, at first and afterwards, still does so. -/
private theorem exists_reference_of_softens {b b' : Binding} {id' : Nat} {s : Site}
    (hb : f.scopes.bindings[id]? = some b) (hone : b.sites = [s]) (hb' : f'.scopes.bindings[id']? = some b')
    (hvar' : b'.kind = .varName) (hone' : b'.sites = [s]) {r : Reference} (hr : r ∈ f.scopes.referencesTo id) :
    ∃ r' ∈ f'.scopes.referencesTo id', r'.site = r.site := by
  rw [hf] at hb hr
  rw [hf'] at hb' ⊢
  obtain ⟨first, hfirst, hmention⟩ := ScopeTree.mention_of_first hb'
  obtain rfl : s = first := by simpa [hone'] using hfirst
  rw [hvar'] at hmention
  rw [ScopeTree.referencesTo_ofTree (Array.getElem?_eq_some_iff.1 hb).1] at hr
  obtain ⟨hr, hid⟩ := List.mem_filter.1 hr
  obtain ⟨r', hr', hsite, id'', b'', hid'', hb'', hs''⟩ := S.exists_reference (Array.mem_toList_iff.1 hr)
    (by simpa using hid) hb hone hmention
  have hs' : s ∈ b'.sites := hone' ▸ List.mem_singleton_self s
  obtain rfl : id'' = id' := (ScopeTree.separate_ofTree S.nested').eq_of_start hb'' hb' hs'' hs' rfl
  refine ⟨r', ?_, hsite⟩
  rw [ScopeTree.referencesTo_ofTree (Array.getElem?_eq_some_iff.1 hb').1]
  exact List.mem_filter.2 ⟨Array.mem_toList_iff.2 hr', by simpa using hid''⟩

/-- If nothing speaks against the name in a place afterwards, nothing spoke against it before. -/
private theorem bindingObstacle?_of_softens {n' : Node} (hspan : n'.span = n.span)
    (hid : f.scopes.bindingAt? m.span = some id)
    (h : ∀ id', f'.scopes.bindingAt? m.span = some id' → bindingObstacle? f' n' id' = none) :
    bindingObstacle? f n id = none := by
  obtain ⟨b, hb, s, hs, hstart⟩ : ∃ b, f.scopes.bindings[id]? = some b ∧
      ∃ s ∈ b.sites, s.span.start = m.span.start := by
    rw [hf] at hid ⊢
    exact (ScopeTree.separate_ofTree S.nested).bindingAt hid
  -- nothing speaks against the binding that has the same site afterwards
  have hnone : ∀ (id' : Nat) (b' : Binding), f'.scopes.bindings[id']? = some b' → s ∈ b'.sites →
      bindingObstacle? f' n' id' = none := by
    intro id' b' hb' hs'
    refine h id' ?_
    rw [hf'] at hb' ⊢
    exact ScopeTree.bindingAt?_eq S.nested' hb' hs' hstart
  have honce : b.kind = .varName ∧ b.sites.length ≤ 1 :=
    isDeclaredOnce_of_softens hf hf' S hb fun id' b' hb' hsites =>
      (bindingObstacle?_eq_none_iff.1 (hnone id' b' hb' (hsites hs))).1 b' hb'
  obtain ⟨id', b', hb', hs'⟩ : ∃ (id' : Nat) (b' : Binding), f'.scopes.bindings[id']? = some b' ∧ s ∈ b'.sites := by
    rw [hf] at hb
    rw [hf']
    exact S.exists_binding_of_site hb hs
  obtain ⟨honce', hbehind'⟩ := bindingObstacle?_eq_none_iff.1 (hnone id' b' hb' hs')
  obtain ⟨hvar', hlength'⟩ := honce' b' hb'
  refine bindingObstacle?_eq_none_iff.2 ⟨fun c hc => ?_, fun r hr => ?_⟩
  · obtain rfl : b = c := Option.some.inj (hb.symm.trans hc)
    exact honce
  · obtain ⟨r', hr', hsite⟩ := exists_reference_of_softens hf hf' S hb (eq_singleton_of_mem hs honce.2) hb' hvar'
      (eq_singleton_of_mem hs' hlength') hr
    rw [← hspan, ← hsite]
    exact hbehind' r' hr'

end Softens

/-! ### The declarations that stay -/

section Rewording

variable {text : String} {soft : Span → Prop} (S : Rewording f.tree.root (converts f) f.tree.source text soft)
include S

/-- A declaration that stays has its keyword afterwards. -/
private theorem keyword?_soften (hnot : ¬ converts f n = true) :
    keyword? (n.soften (converts f)) = (keyword? n).map (Node.soften (converts f)) := by
  unfold keyword?
  rw [Node.kind_soften_of_not hnot, Node.children_soften_of_not hnot, List.head?_map, Option.filter_map]
  split
  · simp [Function.comp_def, S.kind_eq_iff .varKeyword (by decide)]
  · rfl

omit S in
private theorem keyword?_of_converts (h : converts f n = true) : keyword? (n.soften (converts f)) = none := by
  simp [keyword?, Node.kind_soften_of_chosen h]

private theorem soften_mem_patternIdentifiers (hn : n ∈ f.tree.root.nodes) (hnot : ¬ converts f n = true)
    (hm : m ∈ patternIdentifiers n) : m.soften (converts f) ∈ patternIdentifiers (n.soften (converts f)) := by
  obtain ⟨d, hd, hk, c, hc, hm⟩ := mem_patternIdentifiers.1 hm
  have hdnot : ¬ converts f d = true := S.not_chosen_of_kind (by rw [hk]; decide)
  have hdroot := Node.mem_nodes_trans (Node.child_mem_nodes hd) hn
  have hcroot := Node.mem_nodes_trans (Node.child_mem_nodes (Node.mem_children_of_field hc)) hdroot
  refine mem_patternIdentifiers.2 ⟨d.soften (converts f), ?_, ?_, c.soften (converts f), ?_, ?_⟩
  · rw [Node.children_soften_of_not hnot]
    exact List.mem_map_of_mem hd
  · rw [Node.kind_soften_of_not hdnot, hk]
  · rw [Node.childByField?_soften_of_not hdnot, hc]
    rfl
  · exact S.soften_mem_declarable hcroot hm

end Rewording

/-- If nothing speaks against a declaration afterwards, nothing spoke against it before. -/
theorem obstacle?_of_softens {text : String} (hf : f.scopes = .ofTree f.tree)
    (hf' : f'.scopes = .ofTree f'.tree) (htree : f'.tree = converted f text)
    (S : Rewording f.tree.root (converts f) f.tree.source text (IsDeclaredOnce f.scopes)) {v : Node.Visit}
    (hv : v ∈ f.tree.root.walk) (hnot : ¬ converts f v.node = true)
    (h : obstacle? f' (v.soften (converts f)) = none) : obstacle? f v = none := by
  have hsoftens : f.tree.Softens (IsDeclaredOnce f.scopes) f'.tree := by
    rw [htree]
    exact S.softens_file
  have hvroot : v.node ∈ f.tree.root.nodes := List.mem_map_of_mem hv
  obtain ⟨htop, hfunction, hnames⟩ := obstacle?_eq_none_iff.1 h
  refine obstacle?_eq_none_iff.2 ⟨?_, ?_, fun m hm id hid => ?_⟩
  · rw [← htop, Node.Visit.soften, Option.all_map]
    refine congrArg (fun p => v.parent.all p) (funext fun p => ?_)
    exact (S.kind_congr isTop rfl).symm
  · rw [← hfunction, hf, hf', hsoftens.isFunctionLikeAt_eq]
    simp [Node.Visit.soften]
  · have hm' := hnames _ (soften_mem_patternIdentifiers S hvroot hnot hm)
    rw [Node.span_soften] at hm'
    exact bindingObstacle?_of_softens hf hf' hsoftens (Node.span_soften v.node) hid hm'

/-- A declaration that something speaks against is not changed. -/
private theorem not_converts_of_obstacle (hnested : f.tree.root.IsNested) (hwords : f.tree.WordsAreLeaves)
    {v : Node.Visit} (hv : v ∈ f.tree.root.walk) {obstacle : Obstacle} (h : obstacle? f v = some obstacle) :
    ¬ converts f v.node = true := by
  intro hconverts
  have hvroot : v.node ∈ f.tree.root.nodes := List.mem_map_of_mem hv
  obtain ⟨v', hv', hnode, hnone⟩ := visit_of_converts hnested hwords hvroot hconverts
  obtain ⟨w, hw, -⟩ := converts_iff.1 hconverts
  obtain ⟨-, -, rest, hrest⟩ := keyword?_eq_some hw
  have hsize := (keyword_slice hwords hvroot hw).2.2.2.2
  have hcovers := Span.covers_iff.1 ((hnested.of_mem hvroot).covers_child (by rw [hrest]; exact List.mem_cons_self))
  obtain rfl := hnested.visit_unique hv hv' hnode.symm (by omega)
  rw [hnone] at h
  cases h

/-- When the rule has put `let` in the place of some keywords, it has no more edits to propose on the new text. Every
declaration by `var` that something spoke against is still one, and something still speaks against it. -/
theorem second_conversion_finds_nothing (t : Tree) (settings : Settings) (hnested : t.root.IsNested)
    (hwords : t.WordsAreLeaves)
    (hname : ∀ d ∈ t.root.nodes, d.kind = .variableDeclarator →
      (d.children.filter (·.field = some .name)).length ≤ 1) :
    let f := Facts.ofTree t settings
    ∃ set result text, Rule.check .bindings f = .ok (set, result) ∧ set.apply t.source = .ok text ∧
      let f' := Facts.ofTree (converted f text) settings
      (propose f').edits = [] ∧
      ∀ v ∈ t.root.walk, ∀ w obstacle, keyword? v.node = some w → obstacle? f v = some obstacle →
        v.soften (converts f) ∈ f'.tree.root.walk ∧
        (∃ w', keyword? (v.soften (converts f)).node = some w') ∧
        ∃ obstacle', obstacle? f' (v.soften (converts f)) = some obstacle' := by
  intro f
  obtain ⟨set, result, text, hcheck, happly, hkeep, hlet⟩ := exists_text (f := f) hnested hwords
  refine ⟨set, result, text, hcheck, happly, ?_⟩
  intro f'
  have S : Rewording f.tree.root (converts f) f.tree.source text (IsDeclaredOnce f.scopes) :=
    rewording hnested hwords hkeep hlet fun n hn h d hd hk c hc hfield m hm =>
      isDeclaredOnce_of_converts hnested hwords hname hn h hd hk hc hfield hm
  -- what stays is kept again, whatever spoke against it
  have hstays : ∀ v ∈ t.root.walk, ¬ converts f v.node = true → ∀ w, keyword? v.node = some w →
      ∃ obstacle', obstacle? f' (v.soften (converts f)) = some obstacle' := by
    intro v hv hnot w hw
    cases hnone : obstacle? f' (v.soften (converts f)) with
    | some obstacle' => exact ⟨obstacle', rfl⟩
    | none =>
      have hfirst : obstacle? f v = none := obstacle?_of_softens rfl rfl rfl S hv hnot hnone
      exact absurd (converts_iff.2 ⟨w, hw, mem_edits_propose.2 ⟨v, hv, w, hw, hfirst, rfl⟩⟩) hnot
  refine ⟨isSettled_iff.1 fun v' hv' w' hw' => ?_, fun v hv w obstacle hw hobstacle => ?_⟩
  · rcases S.visit_of_walk_soften hv' with ⟨v, hv, rfl⟩ | hkind
    · by_cases hconverts : converts f v.node = true
      · rw [Node.Visit.soften, keyword?_of_converts hconverts] at hw'
        cases hw'
      · rw [Node.Visit.soften, keyword?_soften S hconverts] at hw'
        obtain ⟨w, hw, -⟩ := Option.map_eq_some_iff.1 hw'
        exact hstays v hv hconverts w hw
    · have hvar := (keyword?_eq_some hw').1
      rw [hkind] at hvar
      cases hvar
  · have hnot := not_converts_of_obstacle (f := f) hnested hwords hv hobstacle
    have hword : ¬ v.node.IsKeyword := by
      rintro ⟨hkind, -⟩
      rw [(keyword?_eq_some hw).1] at hkind
      cases hkind
    refine ⟨S.soften_mem_walk hv hword, ⟨w.soften (converts f), ?_⟩, hstays v hv hnot w hw⟩
    rw [Node.Visit.soften, keyword?_soften S hnot, hw]
    rfl

/-- The class with a declaration in a computed name, and behind it a variable that is used before it is declared. -/
def besideComputedName : Tree where
  source := "class A { [function () { { var v = 1; } return v; }]() {} } u; var u = 2;"
  dialect := .javascript
  root := BareNode.place 0 <| .regular .program none 0 73
    [declaresInName, .expression (.identifier none 60 61), .oneByVar none 63]

/-- The declaration in the class is changed, and a use of its name loses its meaning. The other one is kept twice. -/
theorem second_conversion_finds_nothing_beside_computed_name :
    let f := Facts.ofTree besideComputedName .standard
    besideComputedName.root.IsNested ∧ besideComputedName.WordsAreLeaves ∧
    (propose f).edits = [.replace ⟨27, 30⟩ "let"] ∧
    (propose f).skipped = ["Kept 'var' on line 1: name is used before its declaration"] ∧
    ∃ set result text, Rule.check .bindings f = .ok (set, result) ∧ set.apply besideComputedName.source = .ok text ∧
      let f' := Facts.ofTree (converted f text) .standard
      (propose f').edits = [] ∧
      ∀ v ∈ besideComputedName.root.walk, ∀ w obstacle, keyword? v.node = some w → obstacle? f v = some obstacle →
        v.soften (converts f) ∈ f'.tree.root.walk ∧
        (∃ w', keyword? (v.soften (converts f)).node = some w') ∧
        ∃ obstacle', obstacle? f' (v.soften (converts f)) = some obstacle' := by
  have hnested : besideComputedName.root.IsNested := by decide +kernel
  have hwords : besideComputedName.WordsAreLeaves := by decide +kernel
  have hname : ∀ d ∈ besideComputedName.root.nodes, d.kind = .variableDeclarator →
      (d.children.filter (·.field = some .name)).length ≤ 1 := by decide +kernel
  exact ⟨hnested, hwords, by decide +kernel, by decide +kernel,
    second_conversion_finds_nothing besideComputedName .standard hnested hwords hname⟩

end Bindings

end ScriptTidy
