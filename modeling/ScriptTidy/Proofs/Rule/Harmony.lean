import ScriptTidy.Pipeline
import ScriptTidy.Proofs.Rule.Bindings
import ScriptTidy.Proofs.Rule.RenameEdits
import ScriptTidy.Proofs.Rule.UnusedImports
import ScriptTidy.Proofs.Rule.UnusedVariables

/-!
# No rule conflicts with itself

A rule's edits are in harmony with a text when they can be merged and each of them fits the text. In a tree whose nodes
stand where the parsers put them this holds of all four rules, for reasons of their own: the edits of the rules on
imports, names and bindings are apart, and those of the rule on variables are deletions that lie one inside the other or
apart. Every edit starts and stops where a node starts or stops, or where the file starts.
-/

namespace ScriptTidy

namespace EditSet

/-- The edits can be merged, and each of them fits the text. -/
structure InHarmony (source : String) (edits : List Edit) : Prop where
  merges : ∃ set, merge edits = .ok set
  fits : ∀ e ∈ edits, Fits source e

theorem InHarmony.exists_text {source : String} {edits : List Edit} (h : InHarmony source edits) :
    ∃ set text, merge edits = .ok set ∧ set.apply source = .ok text := by
  obtain ⟨set, hset⟩ := h.merges
  have hvalid : set.validate source = .ok () :=
    validate_eq_ok_iff.2 fun e he => h.fits e (mem_of_mem_merge hset he)
  exact ⟨set, _, hset, apply_eq_ok hvalid⟩

private theorem fits_of_isBoundary {source : String} {e : Edit} (hle : e.start ≤ e.stop)
    (hstart : isBoundary source e.start = true) (hstop : isBoundary source e.stop = true) : Fits source e := by
  obtain ⟨a, b, rfl, hsize⟩ := isBoundary_iff.1 hstop
  refine ⟨hle, ?_, hstart, hstop⟩
  rw [← hsize, String.utf8ByteSize_append]
  exact Nat.le_add_right _ _

end EditSet

/-- What the parsers guarantee about where the nodes of a tree stand in the source: they are nested, on boundaries of
the source and, but for the root, not empty. The keyword `var` is a leaf, what is declared or exported inside of a
declarator lies inside of it with its full span, and import clauses are in order. -/
structure Node.StandsIn (source : String) (root : Node) : Prop where
  nested : root.IsNested
  boundary : ∀ n ∈ root.nodes, isBoundary source n.span.start = true ∧ isBoundary source n.span.stop = true
  byte : ∀ p ∈ root.nodes, ∀ c ∈ p.children, c.span.start < c.span.stop
  keyword : ∀ n ∈ root.nodes, n.kind = .varKeyword → n.children = []
  inside : ∀ d ∈ root.nodes, d.kind = .variableDeclarator → ∀ m ∈ d.nodes,
    m.IsDeclaration ∨ m.kind = .exportStatement → d.span.covers m.fullSpan = true
  clauses : root.ClausesInOrder

instance (source : String) (root : Node) : Decidable (root.StandsIn source) :=
  decidable_of_iff (root.IsNested ∧
    (∀ n ∈ root.nodes, isBoundary source n.span.start = true ∧ isBoundary source n.span.stop = true) ∧
    (∀ p ∈ root.nodes, ∀ c ∈ p.children, c.span.start < c.span.stop) ∧
    (∀ n ∈ root.nodes, n.kind = .varKeyword → n.children = []) ∧
    (∀ d ∈ root.nodes, d.kind = .variableDeclarator → ∀ m ∈ d.nodes,
      m.IsDeclaration ∨ m.kind = .exportStatement → d.span.covers m.fullSpan = true) ∧
    root.ClausesInOrder)
    ⟨fun ⟨h₁, h₂, h₃, h₄, h₅, h₆⟩ => ⟨h₁, h₂, h₃, h₄, h₅, h₆⟩, fun ⟨h₁, h₂, h₃, h₄, h₅, h₆⟩ => ⟨h₁, h₂, h₃, h₄, h₅, h₆⟩⟩

section Rules

variable {t : Tree} (h : t.root.StandsIn t.source) (hplaced : t.root.IsPlaced) (hanchored : t.root.IsAnchored)
  (hzero : t.root.fullSpan.start = 0)

section Fits

include h hzero

private theorem isBoundary_of_hasEnd {offset : Nat} (hend : t.root.HasEnd offset) :
    isBoundary t.source offset = true := by
  rcases hend with rfl | ⟨m, hm, rfl | rfl⟩
  · rw [hzero]
    exact isBoundary_zero _
  · exact (h.boundary m hm).1
  · exact (h.boundary m hm).2

private theorem fits_of_hasEnd {e : Edit} (hle : e.start ≤ e.stop) (hstart : t.root.HasEnd e.start)
    (hstop : t.root.HasEnd e.stop) : EditSet.Fits t.source e :=
  EditSet.fits_of_isBoundary hle (isBoundary_of_hasEnd h hzero hstart) (isBoundary_of_hasEnd h hzero hstop)

end Fits

/-! ### The rule on imports -/

include h hplaced hanchored hzero in
private theorem UnusedImports.inHarmony (settings : Settings) :
    EditSet.InHarmony t.source (propose (.ofTree t settings)).edits := by
  have hframes : ∀ e ∈ (propose (.ofTree t settings)).edits,
      e.start < e.stop ∧ t.root.HasEnd e.start ∧ t.root.HasEnd e.stop := fun e he =>
    frames_of_mem_propose (f := .ofTree t settings) h.nested hplaced hanchored h.byte h.clauses he
  refine ⟨EditSet.merge_ok_of_apart (fun e he => (hframes e he).1) fun a ha b hb => ?_, fun e he => ?_⟩
  · exact eq_or_apart_of_mem_propose h.nested hplaced hanchored h.byte h.clauses ha hb
  · obtain ⟨hlt, hstart, hstop⟩ := hframes e he
    exact fits_of_hasEnd h hzero (Nat.le_of_lt hlt) hstart hstop

/-! ### The rule on variables -/

namespace UnusedVariables

variable {settings : Settings} {gone : List Nat}

include h hplaced

/-- The ends of a run are ends of declarators, so that a run takes or leaves each other child of the declaration as a
whole. -/
private theorem respects_child {D c : Node} (hD : D ∈ t.root.nodes) (hc : c ∈ D.children)
    (hk : c.kind ≠ .variableDeclarator) {r : Span}
    (hr : r ∈ runDeletions none none (marks (.ofTree t settings) gone D)) :
    r.covers c.fullSpan = true ∨ r.Apart c.fullSpan := by
  have hbeside : ∀ {offset : Nat}, (∃ d ∈ D.declarators, offset = d.span.start ∨ offset = d.span.stop) →
      offset ≤ c.fullSpan.start ∨ c.fullSpan.stop ≤ offset := by
    rintro offset ⟨d, hd, hend⟩
    obtain ⟨hdD, hdk⟩ := Node.mem_declarators.1 hd
    have hd' := ((h.nested.of_mem hD).child hdD).start_le_stop
    have horder := (h.nested.of_mem hD).pairwise_children.and (hplaced D hD).2.2
    rw [Node.stop_fullSpan]
    rcases eq_or_rel horder hdD hc with rfl | ⟨-, hdc⟩ | ⟨hcd, -⟩
    · exact absurd hdk hk
    · have := hdc.resolve_left (by rw [hdk]; decide)
      left
      omega
    · right
      omega
  obtain ⟨hstart, hstop⟩ := ends_of_run hr
  rcases hbeside hstart with hstart | hstart
  · rcases hbeside hstop with hstop | hstop
    · exact .inr (.inl hstop)
    · exact .inl (Span.covers_iff.2 ⟨hstart, hstop⟩)
  · exact .inr (.inr hstart)

private theorem runsSpareInner : RunsSpareInner (.ofTree t settings) gone := by
  intro D hD hDk r hr m hm hne hmk
  obtain ⟨c, hc, hmc⟩ := (Node.mem_nodes.1 hm).resolve_left hne
  have hcroot := Node.mem_nodes_trans (Node.child_mem_nodes hc) hD
  -- whatever covers `m` and is respected by the run makes the run respect `m`
  have hpart : ∀ {s : Span}, s.covers m.fullSpan = true → r.covers s = true ∨ r.Apart s →
      r.covers m.fullSpan = true ∨ r.Apart m.fullSpan := by
    rintro s hs (hcovers | hapart)
    · exact .inl (Span.covers_trans hcovers hs)
    · exact .inr (hapart.of_covers (Span.covers_self _) hs)
  by_cases hk : c.kind = .variableDeclarator
  · refine hpart (h.inside c hcroot hk m hmc (hmk.imp_right And.left)) ?_
    exact (run_respects h.nested hD hr (Node.mem_declarators.2 ⟨hc, hk⟩)).imp_left And.right
  · refine hpart ((hplaced.of_mem hcroot).covers_fullSpan (h.nested.of_mem hcroot) hmc) ?_
    exact respects_child h hplaced hD hc hk hr

include hanchored hzero in
private theorem inHarmony (settings : Settings) : EditSet.InHarmony t.source (propose (.ofTree t settings)).edits := by
  have hcut : ∀ e ∈ (propose (.ofTree t settings)).edits, ∃ r, e = .delete r ∧
      Cut (.ofTree t settings)
        (removed (ScopeTree.ofTree t).referencesTo (candidates (statements (.ofTree t settings)))) r :=
    fun e he => cut_of_mem_propose he
  refine ⟨EditSet.merge_ok_of_laminar ?_ ?_, ?_⟩
  · intro e he
    obtain ⟨r, rfl, hr⟩ := hcut e he
    exact ⟨rfl, hr.start_le_stop h.nested hplaced⟩
  · intro a ha b hb
    obtain ⟨r, rfl, hr⟩ := hcut a ha
    obtain ⟨s, rfl, hs⟩ := hcut b hb
    refine hr.laminar_of_precede h.nested hplaced (runsSpareInner h hplaced) ?_ hs
    intro a ha b hb _ _
    exact h.nested.inside_or_precedes hplaced hanchored ha hb
  · intro e he
    obtain ⟨r, rfl, hr⟩ := hcut e he
    have hends : t.root.HasEnd r.start ∧ t.root.HasEnd r.stop := by
      cases hr with
      | whole hs hD hall => exact ⟨hanchored.hasEnd_fullSpan hD.outer_mem, .stop hD.outer_mem⟩
      | run hs hD hr =>
        have hinside : ∀ {d : Node}, d ∈ Node.declarators _ → d ∈ t.root.nodes := fun hd =>
          Node.mem_nodes_trans (Node.child_mem_nodes (Node.mem_declarators.1 hd).1) hD.mem_root
        obtain ⟨⟨d, hd, hstart⟩, d', hd', hstop⟩ := ends_of_run hr
        exact ⟨.inr ⟨d, hinside hd, hstart⟩, .inr ⟨d', hinside hd', hstop⟩⟩
    exact fits_of_hasEnd h hzero (hr.start_le_stop h.nested hplaced) hends.1 hends.2

end UnusedVariables

/-! ### The rule on names -/

namespace Casing

variable {settings : Settings}

/-- The place of a binding or of a reference is the span of a node. -/
private theorem exists_node {r : Rename} (hr : r ∈ renames (.ofTree t settings)) {site : Site}
    (hsite : site ∈ r.binding.sites ∨
      ∃ ref ∈ (ScopeTree.ofTree t).references, ref.binding = some r.binding.id ∧ ref.site = site) :
    ∃ m ∈ t.root.nodes, m.span = site.span := by
  have hsound := ScopeRecord.sound_outline t
  rcases hsite with hsite | ⟨ref, href, -, rfl⟩
  · obtain ⟨kind, hmention⟩ := hsound.sites_mentioned (getElem?_of_mem_renames hr) site hsite
    obtain ⟨m, hm, hspan, -⟩ := mentions_outline hmention
    exact ⟨m, hm, hspan⟩
  · obtain ⟨ref₀, href₀, rfl⟩ := Array.mem_map.1 href
    obtain ⟨k, hk⟩ := Array.getElem?_of_mem href₀
    obtain ⟨m, hm, -, hspan, -⟩ := mentions_outline (hsound.references_mentioned hk)
    exact ⟨m, hm, hspan⟩

include h hzero in
private theorem inHarmony (settings : Settings) : EditSet.InHarmony t.source (propose (.ofTree t settings)).edits := by
  refine ⟨EditSet.merge_ok_of_apart (fun e he => byte_of_mem_edits h.nested he)
    fun a ha b hb => Span.eq_or_apart (pairwise_edits h.nested settings) ha hb, fun e he => ?_⟩
  obtain ⟨r, hr, site, hsite, rfl⟩ := mem_edits_propose.1 he
  obtain ⟨m, hm, hspan⟩ := exists_node hr ((mem_renameSites hr).1 hsite)
  refine fits_of_hasEnd h hzero ?_ ?_ ?_ <;>
    simp only [renameEdit, Edit.start_replace, Edit.stop_replace, ← hspan]
  · exact (h.nested.of_mem hm).start_le_stop
  · exact .start hm
  · exact .stop hm

end Casing

/-! ### The rule on bindings -/

include h hzero in
private theorem Bindings.inHarmony (settings : Settings) :
    EditSet.InHarmony t.source (propose (.ofTree t settings)).edits := by
  have hshape : ∀ e ∈ (propose (.ofTree t settings)).edits, ∃ p ∈ t.root.nodes, ∃ w ∈ p.children,
      w.kind = .varKeyword ∧ e = .replace w.span "let" := by
    intro e he
    obtain ⟨v, hv, w, hw, -, rfl⟩ := mem_edits_propose.1 he
    obtain ⟨-, hk, rest, hrest⟩ := keyword?_eq_some hw
    exact ⟨v.node, List.mem_map.2 ⟨v, hv, rfl⟩, w, by rw [hrest]; exact List.mem_cons_self, hk, rfl⟩
  refine ⟨EditSet.merge_ok_of_apart ?_ ?_, ?_⟩
  · intro e he
    obtain ⟨p, hp, w, hw, -, rfl⟩ := hshape e he
    exact h.byte p hp w hw
  · intro a ha b hb
    obtain ⟨p, hp, w, hw, hk, rfl⟩ := hshape a ha
    obtain ⟨p', hp', w', hw', hk', rfl⟩ := hshape b hb
    have hmem := Node.mem_nodes_trans (Node.child_mem_nodes hw) hp
    have hmem' := Node.mem_nodes_trans (Node.child_mem_nodes hw') hp'
    rcases h.nested.eq_or_apart_of_leaves hmem hmem' (h.keyword w hmem hk) (h.keyword w' hmem' hk') with rfl | hapart
    · exact .inl rfl
    · exact .inr hapart
  · intro e he
    obtain ⟨p, hp, w, hw, -, rfl⟩ := hshape e he
    have hmem := Node.mem_nodes_trans (Node.child_mem_nodes hw) hp
    exact fits_of_hasEnd h hzero (h.nested.of_mem hmem).start_le_stop (.start hmem) (.stop hmem)

end Rules

/-! ### All four rules -/

/-- In a tree whose nodes stand where they should, the edits of every rule are in harmony with the source. -/
theorem Rule.inHarmony {bare : BareNode} {source : String} (h : (bare.place 0).StandsIn source) (dialect : Dialect)
    (settings : Settings) (rule : Rule) :
    EditSet.InHarmony source (rule.propose (.ofTree ⟨bare.place 0, source, dialect⟩ settings)).edits := by
  let t : Tree := ⟨bare.place 0, source, dialect⟩
  have ht : t.root.StandsIn t.source := h
  have hplaced : t.root.IsPlaced := BareNode.isPlaced_place bare 0 h.nested
  have hanchored : t.root.IsAnchored := BareNode.isAnchored_place bare 0 h.nested
  have hzero : t.root.fullSpan.start = 0 := BareNode.start_fullSpan_place_zero bare
  cases rule with
  | unusedImports => exact UnusedImports.inHarmony ht hplaced hanchored hzero settings
  | unusedVariables => exact UnusedVariables.inHarmony ht hplaced hanchored hzero settings
  | casing => exact Casing.inHarmony ht hzero settings
  | bindings => exact Bindings.inHarmony ht hzero settings

/-- The failure lies with a text and not with edits: there is no tree, or the new text has more faults. -/
def RunError.IsOfText (e : RunError) : Prop :=
  (∃ cause, e = .parse cause) ∨ ∃ rule before after, e = .regression rule before after

namespace Pipeline

variable {parser : Parser} {p : Pipeline} {rule : Rule} {file : String} {e : RunError}

private theorem isOfText_of_verified {tree : Tree} {updated : String}
    (h : verified parser rule tree file updated = .error e) : e.IsOfText := by
  unfold verified at h
  split at h
  · cases h
    exact .inl ⟨_, rfl⟩
  · split at h
    · cases h
      exact .inr ⟨_, _, _, rfl⟩
    · cases h

/-- If the rule's edits are in harmony with the source, nothing but the text can make a run of the rule fail. -/
private theorem isOfText_of_applyRule {tree : Tree}
    (hharmony : EditSet.InHarmony tree.source (rule.propose (.ofTree tree p.settings)).edits)
    (h : p.applyRule parser rule tree file = .error e) : e.IsOfText := by
  obtain ⟨set, text, hset, happly⟩ := hharmony.exists_text
  obtain ⟨result, hcheck⟩ := Rule.check_of_merge rule hset
  rw [applyRule, hcheck] at h
  dsimp only at h
  split at h
  · cases h
  · rw [happly] at h
    dsimp only at h
    split at h
    · split at h
      · rename_i hverified
        cases h
        exact isOfText_of_verified hverified
      · cases h
    · cases h

private theorem isOfText_of_runRule {source : String}
    (hharmony : ∀ tree, Tree.parse parser file source = .ok tree →
      EditSet.InHarmony tree.source (rule.propose (.ofTree tree p.settings)).edits)
    (h : p.runRule parser rule source file = .error e) : e.IsOfText := by
  unfold runRule at h
  split at h
  · rename_i hstep
    cases h
    unfold step at hstep
    split at hstep
    · cases hstep
      exact .inl ⟨_, rfl⟩
    · rename_i tree htree
      exact isOfText_of_applyRule (hharmony tree htree) hstep
  · cases h

end Pipeline

/-- The tree of a text is what the parser gave for it, placed. -/
private theorem Tree.eq_of_parse {parser : Parser} {file source : String} {bare : BareNode} {tree : Tree}
    (hbare : parser (Dialect.ofFile file) source = some bare) (h : parse parser file source = .ok tree) :
    tree = ⟨bare.place 0, source, Dialect.ofFile file⟩ := by
  rw [parse, parseAs, hbare] at h
  dsimp only at h
  rw [ofBare_eq] at h
  split at h
  · cases h
  · cases h
    rfl

namespace Rule

/-- In a tree whose nodes stand where they should, every rule checks the file without a conflict and its edits can be
applied, whatever the settings are. So a run of a rule on the text of the tree never fails for its edits. -/
theorem no_rule_conflicts_with_itself (bare : BareNode) (source : String) (h : (bare.place 0).StandsIn source)
    (rule : Rule) :
    (∀ (dialect : Dialect) (settings : Settings), ∃ set result text,
      rule.check (.ofTree ⟨bare.place 0, source, dialect⟩ settings) = .ok (set, result) ∧
        set.apply source = .ok text) ∧
    ∀ (parser : Parser) (p : Pipeline) (file : String), parser (Dialect.ofFile file) source = some bare →
      ∀ e, p.runRule parser rule source file = .error e →
        (∀ r cause, e ≠ .conflict r cause) ∧ ∀ r cause, e ≠ .edits r cause := by
  refine ⟨fun dialect settings => ?_, fun parser p file hbare e he => ?_⟩
  · obtain ⟨set, text, hset, happly⟩ := (inHarmony h dialect settings rule).exists_text
    obtain ⟨result, hcheck⟩ := check_of_merge rule hset
    exact ⟨set, result, text, hcheck, happly⟩
  · have hharmony : ∀ tree, Tree.parse parser file source = .ok tree →
        EditSet.InHarmony tree.source (rule.propose (.ofTree tree p.settings)).edits := by
      intro tree htree
      obtain rfl := Tree.eq_of_parse hbare htree
      exact inHarmony h (Dialect.ofFile file) p.settings rule
    rcases Pipeline.isOfText_of_runRule hharmony he with ⟨cause, rfl⟩ | ⟨r, before, after, rfl⟩
    · exact ⟨nofun, nofun⟩
    · exact ⟨nofun, nofun⟩

/-- The default import and a variable are not used, and inside that variable stands another one behind a comment. -/
def crowded : BareNode :=
  .regular .program none 0 74
    [.importing .defaultAndList,
     .byVar none 26 66
      [.initialized 30 33 (.identifier (some .value) 36 37), .sign "," 37,
       .initialized 39 40 (.regular .arrowFunction (some .value) 43 65
        [.parameters 43 45 [], .token (.other "=>") none 46 48,
         .body 49 65 [.regular .comment none 51 56 [], .byVar none 57 63 [.uninitialized 61 62]]])],
     .called 67 68 73]

/-- All four rules have something to edit there. The rule on variables deletes one declaration inside another. -/
theorem no_rule_conflicts_with_itself_crowded :
    let source := "import a, \x7b b \x7d from \"m\"; var x_y = b, z = () => \x7b /*c*/ var w; \x7d; f(x_y);"
    let f := Facts.ofTree ⟨crowded.place 0, source, .javascript⟩ .standard
    (crowded.place 0).StandsIn source ∧ (∀ rule ∈ Rule.all, (rule.propose f).edits ≠ []) ∧
    (Rule.propose .unusedVariables f).edits = [.delete ⟨37, 65⟩, .delete ⟨50, 63⟩] ∧
    ∀ rule : Rule, ∃ set result text, rule.check f = .ok (set, result) ∧ set.apply source = .ok text := by
  intro source f
  have h : (crowded.place 0).StandsIn source := by decide +kernel
  exact ⟨h, by decide +kernel, by decide +kernel, fun rule =>
    (no_rule_conflicts_with_itself crowded source h rule).1 .javascript .standard⟩

end Rule

end ScriptTidy
