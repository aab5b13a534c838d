import ScriptTidy.Proofs.Edit.Deletions
import ScriptTidy.Proofs.Edit.InPlace
import ScriptTidy.Proofs.Names.SofterTree
import ScriptTidy.Proofs.Rule.Proposal

/-!
# From `var` to `let` without a change of meaning

The rule on bindings puts `let` in the place of some keywords `var`. The two are of one length, so that no other text
moves, and the tree of the new text is the old one with softer declarations. Each of these stands directly in a
function or in the file, because the rule looks for the region at its start. One place is an exception: what stands in
the computed name of a method is read in front of the method's region, although it starts inside of it. With no such
declaration, the names mean what they meant before (`converted_keeps_meaning`); with one, they may not
(`computed_name_loses_meaning`).
-/

namespace ScriptTidy

/-- What the grammars guarantee about words: the keyword `var` and whatever is read as a name or as the keyword of a
declaration are leaves. -/
structure Tree.WordsAreLeaves (t : Tree) : Prop where
  keyword : ∀ n ∈ t.root.nodes, n.kind = .varKeyword →
    n.children = [] ∧ n.text t.source = "var" ∧ (n.field = none ∨ n.field = some .kind)
  identifier : ∀ n ∈ t.root.nodes, n.kind.isIdentifier = true → n.children = []
  name : ∀ n ∈ t.root.nodes, n.kind.construct = .functionDeclaration ∨ n.kind.construct = .functionExpression ∨
    n.kind.construct = .classDeclaration ∨ n.kind.construct = .classExpression →
    ∀ c ∈ n.children, c.field = some .name → c.children = []
  kind : ∀ n ∈ t.root.nodes, ∀ c ∈ n.children, c.field = some .kind → c.children = []

instance (t : Tree) : Decidable t.WordsAreLeaves :=
  decidable_of_iff ((∀ n ∈ t.root.nodes, n.kind = .varKeyword →
      n.children = [] ∧ n.text t.source = "var" ∧ (n.field = none ∨ n.field = some .kind)) ∧
    (∀ n ∈ t.root.nodes, n.kind.isIdentifier = true → n.children = []) ∧
    (∀ n ∈ t.root.nodes, n.kind.construct = .functionDeclaration ∨ n.kind.construct = .functionExpression ∨
      n.kind.construct = .classDeclaration ∨ n.kind.construct = .classExpression →
      ∀ c ∈ n.children, c.field = some .name → c.children = []) ∧
    ∀ n ∈ t.root.nodes, ∀ c ∈ n.children, c.field = some .kind → c.children = [])
    ⟨fun ⟨h₁, h₂, h₃, h₄⟩ => ⟨h₁, h₂, h₃, h₄⟩, fun ⟨h₁, h₂, h₃, h₄⟩ => ⟨h₁, h₂, h₃, h₄⟩⟩

namespace Bindings

variable {f : Facts} {n w : Node}

/-! ### The keywords that are replaced -/

theorem keyword?_eq_some (h : keyword? n = some w) :
    n.kind = .variableDeclaration ∧ w.kind = .varKeyword ∧ ∃ rest, n.children = w :: rest := by
  unfold keyword? at h
  split at h
  · rename_i hk
    obtain ⟨hhead, hw⟩ := Option.filter_eq_some_iff.1 h
    obtain ⟨rest, hrest⟩ := List.head?_eq_some_iff.1 hhead
    exact ⟨hk, by simpa using hw, rest, hrest⟩
  · cases h

theorem mem_edits_propose {e : Edit} : e ∈ (propose f).edits ↔
    ∃ v ∈ f.tree.root.walk, ∃ w, keyword? v.node = some w ∧ obstacle? f v = none ∧ e = .replace w.span "let" := by
  simp only [propose, Proposal.edits_concat, List.flatMap_map, List.mem_flatMap]
  refine exists_congr fun v => and_congr_right fun _ => ?_
  unfold proposeFor
  cases hk : keyword? v.node with
  | none => simp [Proposal.none]
  | some w => cases ho : obstacle? f v <;> simp

/-! ### What speaks against a declaration -/

/-- Nothing speaks against a binding that is declared once, by `var`, in front of its references. -/
theorem bindingObstacle?_eq_none_iff {id : Nat} : bindingObstacle? f n id = none ↔
    (∀ b, f.scopes.bindings[id]? = some b → b.kind = .varName ∧ b.sites.length ≤ 1) ∧
      ∀ r ∈ f.scopes.referencesTo id, n.span.stop ≤ r.site.span.start := by
  have honce : f.scopes.bindings[id]?.any (fun b => b.kind ≠ .varName || 1 < b.sites.length) = false ↔
      ∀ b, f.scopes.bindings[id]? = some b → b.kind = .varName ∧ b.sites.length ≤ 1 := by
    cases f.scopes.bindings[id]? <;> simp
  have hused : (f.scopes.referencesTo id).any (·.site.span.start < n.span.stop) = false ↔
      ∀ r ∈ f.scopes.referencesTo id, n.span.stop ≤ r.site.span.start := by simp
  rw [← honce, ← hused]
  unfold bindingObstacle?
  cases f.scopes.bindings[id]?.any fun b => b.kind ≠ .varName || 1 < b.sites.length with
  | true => simp
  | false => cases (f.scopes.referencesTo id).any (·.site.span.start < n.span.stop) <;> simp

/-- Nothing speaks against a declaration at the top of a function or the file, if nothing speaks against its names. -/
theorem obstacle?_eq_none_iff {v : Node.Visit} : obstacle? f v = none ↔
    v.parent.all (isTop ·.kind) = true ∧ f.scopes.isFunctionLikeAt v.node.span.start = true ∧
      ∀ m ∈ patternIdentifiers v.node, ∀ id, f.scopes.bindingAt? m.span = some id →
        bindingObstacle? f v.node id = none := by
  unfold obstacle?
  cases v.parent.all (isTop ·.kind) with
  | false => simp
  | true =>
    cases f.scopes.isFunctionLikeAt v.node.span.start with
    | false => simp
    | true =>
      simp only [Bool.not_true, Bool.false_eq_true, if_false, List.findSome?_eq_none_iff, List.mem_filterMap, true_and]
      exact ⟨fun h m hm id hid => h id ⟨m, hm, hid⟩, fun h id ⟨m, hm, hid⟩ => h m hm id hid⟩

/-- The rule replaces the keyword of the declaration. -/
def converts (f : Facts) (n : Node) : Bool :=
  (keyword? n).any fun w => (propose f).edits.contains (.replace w.span "let")

theorem converts_iff : converts f n = true ↔ ∃ w, keyword? n = some w ∧ .replace w.span "let" ∈ (propose f).edits := by
  unfold converts
  cases keyword? n <;> simp

/-- The tree of the text in which the keywords are replaced. -/
def converted (f : Facts) (text : String) : Tree := ⟨f.tree.root.soften (converts f), text, f.tree.dialect⟩

/-- The node stands in the pattern of a declaration whose keyword is replaced. -/
def IsConverted (f : Facts) (span : Span) : Prop :=
  ∃ n ∈ f.tree.root.nodes, converts f n = true ∧ ∃ d ∈ n.children, d.kind = .variableDeclarator ∧
    ∃ c ∈ d.children, c.field = some .name ∧ ∃ m ∈ c.nodes, m.span = span

/-- A keyword that is replaced has three bytes, which read `var`. -/
theorem keyword_slice (hwords : f.tree.WordsAreLeaves) (hn : n ∈ f.tree.root.nodes) (hw : keyword? n = some w) :
    w ∈ f.tree.root.nodes ∧ w.children = [] ∧ (w.field = none ∨ w.field = some .kind) ∧
      slice? f.tree.source w.span = some "var" ∧ w.span.start + 3 = w.span.stop := by
  obtain ⟨-, hk, rest, hrest⟩ := keyword?_eq_some hw
  have hmem : w ∈ f.tree.root.nodes := Node.mem_nodes_trans (Node.child_mem_nodes (by rw [hrest]; simp)) hn
  obtain ⟨hleaf, htext, hfield⟩ := hwords.keyword w hmem hk
  have hslice : slice? f.tree.source w.span = some "var" := by
    unfold Node.text slice at htext
    cases hs : slice? f.tree.source w.span with
    | none => simp [hs] at htext
    | some text => simpa [hs] using htext
  refine ⟨hmem, hleaf, hfield, hslice, ?_⟩
  obtain ⟨a, b, -, hstart, hstop⟩ := slice?_eq_some_iff.1 hslice
  rw [← hstart, ← hstop, String.utf8ByteSize_append]
  rfl

section Words

variable (hnested : f.tree.root.IsNested) (hwords : f.tree.WordsAreLeaves)
include hnested hwords

/-- A declaration whose keyword is replaced is one that the walk met and nothing spoke against. -/
theorem visit_of_converts (hn : n ∈ f.tree.root.nodes) (h : converts f n = true) :
    ∃ v ∈ f.tree.root.walk, v.node = n ∧ obstacle? f v = none := by
  obtain ⟨w, hw, hedit⟩ := converts_iff.1 h
  obtain ⟨v, hv, w', hw', hobstacle, heq⟩ := mem_edits_propose.1 hedit
  have hvroot : v.node ∈ f.tree.root.nodes := List.mem_map.2 ⟨v, hv, rfl⟩
  obtain ⟨hmem, hleaf, -, -, hsize⟩ := keyword_slice hwords hn hw
  obtain ⟨hmem', hleaf', -⟩ := keyword_slice hwords hvroot hw'
  have hspan : w.span = w'.span := by simpa using heq
  obtain ⟨-, -, rest, hrest⟩ := keyword?_eq_some hw
  obtain ⟨-, -, rest', hrest'⟩ := keyword?_eq_some hw'
  -- the two keywords are the same leaf, and so have the same parent
  have hwords' : w = w' := by
    rcases hnested.eq_or_apart_of_leaves hmem hmem' hleaf hleaf' with heq | hapart
    · exact heq
    · rw [← hspan] at hapart
      exact absurd hapart (Span.not_apart_self (by omega))
  have hchild : w ∈ v.node.children := by
    rw [hrest', hwords']
    exact List.mem_cons_self
  have hchild' : w ∈ n.children := by
    rw [hrest]
    exact List.mem_cons_self
  exact ⟨v, hv, hnested.parent_unique hvroot hn hchild hchild' (by omega), hobstacle⟩

/-- A leaf other than the replaced keywords is apart from all edits. -/
private theorem apart_of_leaf {m : Node} (hm : m ∈ f.tree.root.nodes) (hleaf : m.children = [])
    (hne : ∀ n ∈ f.tree.root.nodes, keyword? n ≠ some m) {e : Edit} (he : e ∈ (propose f).edits) :
    e.span.Apart m.span := by
  obtain ⟨v, hv, w, hw, -, rfl⟩ := mem_edits_propose.1 he
  have hvroot : v.node ∈ f.tree.root.nodes := List.mem_map.2 ⟨v, hv, rfl⟩
  obtain ⟨hmem, hleaf', -⟩ := keyword_slice hwords hvroot hw
  rcases hnested.eq_or_apart_of_leaves hmem hm hleaf' hleaf with rfl | hapart
  · exact absurd hw (hne v.node hvroot)
  · exact hapart

/-- The edits can be merged and applied. They leave all text alone but the keywords, which then read `let`. -/
theorem exists_text : ∃ set result text, Rule.check .bindings f = .ok (set, result) ∧
    set.apply f.tree.source = .ok text ∧
    (∀ r : Span, (∀ e ∈ (propose f).edits, e.span.Apart r) → slice? text r = slice? f.tree.source r) ∧
    ∀ n ∈ f.tree.root.nodes, converts f n = true → ∀ w, keyword? n = some w → w.text text = "let" := by
  have hshape : ∀ e ∈ (propose f).edits, ∃ n ∈ f.tree.root.nodes, ∃ w, keyword? n = some w ∧
      e = .replace w.span "let" := by
    intro e he
    obtain ⟨v, hv, w, hw, -, rfl⟩ := mem_edits_propose.1 he
    exact ⟨v.node, List.mem_map.2 ⟨v, hv, rfl⟩, w, hw, rfl⟩
  obtain ⟨set, hset⟩ : ∃ set, EditSet.merge (propose f).edits = .ok set := by
    refine EditSet.merge_ok_of_apart ?_ ?_
    · intro e he
      obtain ⟨n, hn, w, hw, rfl⟩ := hshape e he
      have hsize := (keyword_slice hwords hn hw).2.2.2.2
      simp only [Edit.start_replace, Edit.stop_replace]
      omega
    · intro a ha b hb
      obtain ⟨n, hn, w, hw, rfl⟩ := hshape a ha
      obtain ⟨n', hn', w', hw', rfl⟩ := hshape b hb
      obtain ⟨hmem, hleaf, -⟩ := keyword_slice hwords hn hw
      obtain ⟨hmem', hleaf', -⟩ := keyword_slice hwords hn' hw'
      rcases hnested.eq_or_apart_of_leaves hmem hmem' hleaf hleaf' with rfl | hapart
      · exact .inl rfl
      · exact .inr hapart
  have hmem : ∀ e, e ∈ set.edits ↔ e ∈ (propose f).edits := by
    refine fun e => ⟨EditSet.mem_of_mem_merge hset, fun he => ?_⟩
    rcases EditSet.mem_or_superseded_of_merge hset he with he | ⟨d, hd, hsup⟩
    · exact he
    · -- there are no deletions
      obtain ⟨n, hn, w, hw, rfl⟩ := hshape d (EditSet.mem_of_mem_merge hset hd)
      cases Edit.isDelete_of_supersedes hsup
  have hplace : ∀ e ∈ set.edits, EditSet.InPlace f.tree.source e := by
    intro e he
    obtain ⟨n, hn, w, hw, rfl⟩ := hshape e ((hmem e).1 he)
    exact ⟨"var", (keyword_slice hwords hn hw).2.2.2.1, rfl⟩
  obtain ⟨text, happly, hkeep, hput⟩ := EditSet.apply_in_place hset hplace
  obtain ⟨result, hcheck⟩ := Rule.check_of_merge .bindings hset
  refine ⟨set, result, text, hcheck, happly, fun r hr => hkeep r fun e he => hr e ((hmem e).1 he), ?_⟩
  intro n hn hconverts w hw
  obtain ⟨w', hw', he⟩ := converts_iff.1 hconverts
  obtain rfl : w = w' := Option.some.inj (hw.symm.trans hw')
  have hslice : slice? text w.span = some "let" := hput _ ((hmem _).2 he)
  rw [Node.text, slice, hslice, Option.getD_some]

/-- What reads as before keeps its slice. -/
private theorem text_eq_of_leaf {text : String}
    (hkeep : ∀ r : Span, (∀ e ∈ (propose f).edits, e.span.Apart r) → slice? text r = slice? f.tree.source r) {m : Node}
    (hm : m ∈ f.tree.root.nodes) (hleaf : m.children = []) (hne : ∀ n ∈ f.tree.root.nodes, keyword? n ≠ some m) :
    m.text text = m.text f.tree.source := by
  rw [Node.text, Node.text, slice, slice, hkeep m.span fun e he => apart_of_leaf hnested hwords hm hleaf hne he]

/-- A child of a node that is no declaration by `var` is no keyword of one. -/
private theorem keyword?_ne_of_parent {p c : Node} (hp : p ∈ f.tree.root.nodes) (hc : c ∈ p.children)
    (hk : p.kind ≠ .variableDeclaration) : ∀ n ∈ f.tree.root.nodes, keyword? n ≠ some c := by
  intro n hn hw
  have hsize := (keyword_slice hwords hn hw).2.2.2.2
  obtain ⟨hvar, -, rest, hrest⟩ := keyword?_eq_some hw
  have hchild : c ∈ n.children := by
    rw [hrest]
    exact List.mem_cons_self
  exact hk (hnested.parent_unique hp hn hc hchild (by omega) ▸ hvar)

/-- The declarations whose keywords are replaced read as declarations by `let`, and all other words stay. -/
theorem rewording {text : String} {soft : Span → Prop}
    (hkeep : ∀ r : Span, (∀ e ∈ (propose f).edits, e.span.Apart r) → slice? text r = slice? f.tree.source r)
    (hlet : ∀ n ∈ f.tree.root.nodes, converts f n = true → ∀ w, keyword? n = some w → w.text text = "let")
    (hsoft : ∀ n ∈ f.tree.root.nodes, converts f n = true → ∀ d ∈ n.children, d.kind = .variableDeclarator →
      ∀ c ∈ d.children, c.field = some .name → ∀ m ∈ c.declarable, soft m.span) :
    Rewording f.tree.root (converts f) f.tree.source text soft where
  nested := hnested
  isVar n h := by
    obtain ⟨w, hw, -⟩ := converts_iff.1 h
    exact (keyword?_eq_some hw).1
  keyword n hn h := by
    obtain ⟨w, hw, -⟩ := converts_iff.1 h
    obtain ⟨-, hk, rest, hrest⟩ := keyword?_eq_some hw
    obtain ⟨-, hleaf, hfield, -, hsize⟩ := keyword_slice hwords hn hw
    exact ⟨w, rest, hrest, hk, hleaf, hfield, by omega, hlet n hn h w hw⟩
  isSoft := hsoft
  identifier n hn hk := by
    refine text_eq_of_leaf hnested hwords hkeep hn (hwords.identifier n hn hk) fun p _ hw => ?_
    rw [(keyword?_eq_some hw).2.1] at hk
    cases hk
  name n hn hk c hc := by
    have hchild := Node.mem_children_of_field hc
    have hfield : c.field = some .name := by simpa using List.find?_some hc
    have hnvar : n.kind ≠ .variableDeclaration := by
      intro hvar
      rw [hvar] at hk
      simp [Kind.construct] at hk
    exact text_eq_of_leaf hnested hwords hkeep (Node.mem_nodes_trans (Node.child_mem_nodes hchild) hn)
      (hwords.name n hn hk c hchild hfield) (keyword?_ne_of_parent hnested hwords hn hchild hnvar)
  kind n hn hk c hc := by
    have hchild := Node.mem_children_of_field hc
    have hfield : c.field = some .kind := by simpa using List.find?_some hc
    exact text_eq_of_leaf hnested hwords hkeep (Node.mem_nodes_trans (Node.child_mem_nodes hchild) hn)
      (hwords.kind n hn c hchild hfield) (keyword?_ne_of_parent hnested hwords hn hchild hk)

/-- The declarations whose keywords are replaced become softer without a change of meaning. -/
private theorem softening {text : String} (hscopes : f.scopes = ScopeTree.ofTree f.tree)
    (hcomputed : ∀ n ∈ f.tree.root.nodes, Reading.code.readsName n = true → ∀ c ∈ n.childByField? .name,
      ∀ m ∈ c.nodes, ¬ converts f m = true)
    (hkeep : ∀ r : Span, (∀ e ∈ (propose f).edits, e.span.Apart r) → slice? text r = slice? f.tree.source r)
    (hlet : ∀ n ∈ f.tree.root.nodes, converts f n = true → ∀ w, keyword? n = some w → w.text text = "let") :
    Softening f.tree.root (converts f) f.tree.source text (IsConverted f)
      fun offset => Region.kindAt .file offset f.tree.outline.regions where
  toRewording := rewording hnested hwords hkeep hlet fun n hn h d hd hk c hc hfield m hm =>
    ⟨n, hn, h, d, hd, hk, c, hc, hfield, m, (Node.mem_declarable.1 hm).1, rfl⟩
  isTop n hn h := by
    obtain ⟨v, -, rfl, hobstacle⟩ := visit_of_converts hnested hwords hn h
    rw [← ScopeTree.isFunctionLikeAt_eq, ← hscopes]
    exact (obstacle?_eq_none_iff.1 hobstacle).2.1
  notInName := hcomputed

end Words

/-- Where no declaration that it changes stands in the computed name of a method, the rule on bindings keeps every
name's meaning: the text can be edited, and the scope tree of the edited text has the same regions, the same bindings
but for their kinds, and the same references with the same bindings. A kind changes only from `var` to `let`, and only
for a name in the pattern of a changed declaration. -/
theorem converted_keeps_meaning (t : Tree) (settings : Settings) (hnested : t.root.IsNested)
    (hwords : t.WordsAreLeaves)
    (hcomputed : ∀ n ∈ t.root.nodes, Reading.code.readsName n = true → ∀ c ∈ n.childByField? .name,
      ∀ m ∈ c.nodes, ¬ converts (.ofTree t settings) m = true) :
    let f := Facts.ofTree t settings
    ∃ set result text, Rule.check .bindings f = .ok (set, result) ∧ set.apply t.source = .ok text ∧
      (f.scopes).Softened (IsConverted f) (ScopeTree.ofTree (converted f text)) := by
  intro f
  obtain ⟨set, result, text, hcheck, happly, hkeep, hlet⟩ := exists_text (f := f) hnested hwords
  have S : Softening t.root (converts f) t.source text (IsConverted f)
      fun offset => Region.kindAt .file offset t.outline.regions :=
    softening (f := f) hnested hwords rfl hcomputed hkeep hlet
  exact ⟨set, result, text, hcheck, happly, S.softened_ofTree⟩

/-- A declaration by `var` at the top of a function, which uses the variable behind it. -/
def atTop : Tree where
  source := "function f() { var a = 1; return a; }"
  dialect := .javascript
  root := BareNode.place 0 <| .regular .program none 0 37
    [.regular .functionDeclaration none 0 37
      [.token .functionKeyword none 0 8, .identifier (some .name) 9 10, .parameters 10 12 [],
       .body 13 37 [.oneByVar none 15, .returned 26]]]

theorem converted_keeps_meaning_at_top :
    let f := Facts.ofTree atTop .standard
    atTop.root.IsNested ∧ atTop.WordsAreLeaves ∧ (propose f).edits = [.replace ⟨15, 18⟩ "let"] ∧
    ∃ set result text, Rule.check .bindings f = .ok (set, result) ∧ set.apply atTop.source = .ok text ∧
      f.scopes.Softened (IsConverted f) (ScopeTree.ofTree (converted f text)) := by
  have hnested : atTop.root.IsNested := by decide +kernel
  have hwords : atTop.WordsAreLeaves := by decide +kernel
  have hcomputed : ∀ n ∈ atTop.root.nodes, Reading.code.readsName n = true → ∀ c ∈ n.childByField? .name,
      ∀ m ∈ c.nodes, ¬ converts (.ofTree atTop .standard) m = true := by decide +kernel
  exact ⟨hnested, hwords, by decide +kernel, converted_keeps_meaning atTop .standard hnested hwords hcomputed⟩

/-- A class with a method, whose name a function computes. There is a declaration by `var` in a block of the function,
which uses the variable behind the block. -/
def declaresInName : BareNode :=
  .classWithComputedName <|
    .body 23 51 [.braced .statementBlock none 25 39 [.oneByVar none 27], .returned 40]

def inComputedName : Tree where
  source := "class A { [function () { { var v = 1; } return v; }]() {} }"
  dialect := .javascript
  root := BareNode.place 0 <| .regular .program none 0 59 [declaresInName]

/-- The region at the start of the declaration is that of the method, a function, and so the declaration is changed.
But it stands in a block: before, the use behind the block means the variable, and afterwards nothing. -/
theorem computed_name_loses_meaning :
    let f := Facts.ofTree inComputedName .standard
    let text := "class A { [function () { { let v = 1; } return v; }]() {} }"
    inComputedName.root.IsNested ∧ inComputedName.WordsAreLeaves ∧
    (Rule.check .bindings f).toOption.map (fun p => p.1.apply inComputedName.source) = some (.ok text) ∧
    f.scopes.references.map (·.binding) = #[some 1] ∧
    (ScopeTree.ofTree (converted f text)).references.map (·.binding) = #[none] := by
  decide +kernel

end Bindings

end ScriptTidy
